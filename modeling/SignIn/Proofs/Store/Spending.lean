-- What becomes of refresh tokens. Only a question that stores a token can make
-- a text unrevoked, and a rotation spends the text that it revokes.
import SignIn.Store.Memory

namespace SignIn.Store

/-- The text of the token that a question asks to store. -/
def Request.mints : Request → Option String
  | .createToken _ token _ => some token
  | .rotateToken _ _ new _ => some new
  | _ => none

/-- The text of the token that was to be rotated, and whether it was. -/
def Request.rotation : (q : Request) → Except StoreError q.Answer → Option (String × Bool)
  | .rotateToken _ old _ _, a =>
    match (a : Except StoreError Bool) with
    | .ok done => some (old, done)
    | .error _ => none
  | _, _ => none

/-- The text of the token that was rotated. -/
def Request.rotates (q : Request) (a : Except StoreError q.Answer) : Option String :=
  match q.rotation a with
  | some (old, true) => some old
  | _ => none

namespace Memory

/-- Whether a text has a record that is not revoked. -/
def holdsUnrevoked (m : Memory) (t : String) : Bool :=
  m.tokens.any fun (u, r) => u == t && !r.isRevoked

theorem holdsUnrevoked_iff {m : Memory} {t : String} :
    m.holdsUnrevoked t = true ↔ ∃ r, (t, r) ∈ m.tokens ∧ r.isRevoked = false := by
  unfold holdsUnrevoked
  rw [List.any_eq_true]
  refine ⟨fun ⟨⟨u, r⟩, hm, h⟩ => ?_, fun ⟨r, hm, h⟩ => ⟨(t, r), hm, by simp [h]⟩⟩
  obtain ⟨rfl, hr⟩ : u = t ∧ r.isRevoked = false := by simpa using h
  exact ⟨r, hm, hr⟩

theorem isRevoked_revokedAt (now : Time.Instant) (r : RefreshRecord) :
    (revokedAt now r).isRevoked = true := rfl

/-- Where all that is unrevoked has been so before, no text becomes unrevoked. -/
theorem holdsUnrevoked_le {m m' : Memory}
    (h : ∀ u r, (u, r) ∈ m'.tokens → r.isRevoked = false → (u, r) ∈ m.tokens) (t : String) :
    (m'.holdsUnrevoked t).toNat ≤ (m.holdsUnrevoked t).toNat := by
  cases hb : m'.holdsUnrevoked t with
  | false => exact Nat.zero_le _
  | true =>
    obtain ⟨r, hm, hr⟩ := holdsUnrevoked_iff.1 hb
    have hheld : m.holdsUnrevoked t = true := holdsUnrevoked_iff.2 ⟨r, h t r hm hr, hr⟩
    exact Nat.le_of_eq (congrArg Bool.toNat hheld.symm)

/-! ## Single writes -/

theorem mem_mapToken_revokedAt {m : Memory} {now : Time.Instant} {t u : String} {r : RefreshRecord}
    (hm : (u, r) ∈ (m.mapToken t (revokedAt now)).tokens) (hr : r.isRevoked = false) :
    (u, r) ∈ m.tokens ∧ u ≠ t := by
  obtain ⟨⟨u', r'⟩, hm', he⟩ := List.mem_map.1 hm
  dsimp only at he
  by_cases hu : u' = t
  · rw [if_pos hu] at he
    cases he
    rw [isRevoked_revokedAt] at hr
    cases hr
  · rw [if_neg hu] at he
    cases he
    exact ⟨hm', hu⟩

theorem holdsUnrevoked_putToken (m : Memory) (now : Time.Instant) (userId : Int) (new t : String)
    (expiresAt : Time.Instant) : ((m.putToken now userId new expiresAt).holdsUnrevoked t).toNat ≤
      (m.holdsUnrevoked t).toNat + [new].count t := by
  by_cases ht : new = t
  · rw [ht, List.count_singleton_self]
    have := Bool.toNat_le ((m.putToken now userId t expiresAt).holdsUnrevoked t)
    omega
  · rw [List.count_singleton, beq_false_of_ne ht]
    cases hb : (m.putToken now userId new expiresAt).holdsUnrevoked t with
    | false => exact Nat.zero_le _
    | true =>
      obtain ⟨r, hm, hr⟩ := holdsUnrevoked_iff.1 hb
      rcases List.mem_append.1 hm with hm | hm
      · rw [holdsUnrevoked_iff.2 ⟨r, (List.mem_filter.1 hm).1, hr⟩]
        exact Nat.le_add_right _ _
      · cases List.mem_singleton.1 hm
        exact absurd rfl ht

theorem mem_of_findToken {m : Memory} {t : String} {r : RefreshRecord}
    (h : m.findToken t = some r) : (t, r) ∈ m.tokens := by
  obtain ⟨before, after, he, _⟩ := List.lookup_eq_some_iff.1 h
  rw [he]
  exact List.mem_append_right _ List.mem_cons_self

/-- A rotation is refused, or else the old token is the user's and active, is revoked, and the new
one is stored. -/
theorem rotateToken_cases (m : Memory) (now : Time.Instant) (userId : Int) (old new : String)
    (expiresAt : Time.Instant) :
    m.rotateToken now userId old new expiresAt = (false, m) ∨
      ∃ r, m.findToken old = some r ∧ r.userId = userId ∧ r.isActive now = true ∧
        m.rotateToken now userId old new expiresAt =
          (true, (m.mapToken old (revokedAt now)).putToken now userId new expiresAt) := by
  unfold rotateToken
  cases hf : m.findToken old with
  | none => exact Or.inl rfl
  | some r =>
    dsimp only
    by_cases h : r.userId = userId ∧ r.isActive now = true
    · rw [if_pos h]
      exact Or.inr ⟨r, rfl, h.1, h.2, rfl⟩
    · rw [if_neg h]
      exact Or.inl rfl

/-- A rotation that is refused leaves the store as it is. -/
theorem rotateToken_of_false {m : Memory} {now : Time.Instant} {userId : Int} {old new : String}
    {expiresAt : Time.Instant} (h : (m.rotateToken now userId old new expiresAt).1 = false) :
    (m.rotateToken now userId old new expiresAt).2 = m := by
  rcases rotateToken_cases m now userId old new expiresAt with he | ⟨_, _, _, _, he⟩
  · rw [he]
  · rw [he] at h
    cases h

theorem rotateToken_of_active {m : Memory} {now : Time.Instant} {userId : Int} {old new : String}
    {expiresAt : Time.Instant} {r : RefreshRecord} (hf : m.findToken old = some r)
    (hu : r.userId = userId) (ha : r.isActive now = true) :
    m.rotateToken now userId old new expiresAt =
      (true, (m.mapToken old (revokedAt now)).putToken now userId new expiresAt) := by
  unfold rotateToken
  rw [hf]
  dsimp only
  rw [if_pos ⟨hu, ha⟩]

theorem rotateToken_of_inactive {m : Memory} {now : Time.Instant} {userId : Int}
    {old new : String} {expiresAt : Time.Instant} {r : RefreshRecord}
    (hf : m.findToken old = some r) (ha : r.isActive now = false) :
    m.rotateToken now userId old new expiresAt = (false, m) := by
  unfold rotateToken
  rw [hf]
  dsimp only
  rw [if_neg (by simp [ha])]

theorem findToken_mapToken (m : Memory) (t : String) (f : RefreshRecord → RefreshRecord) :
    (m.mapToken t f).findToken t = (m.findToken t).map f := by
  unfold findToken mapToken
  induction m.tokens with
  | nil => rfl
  | cons e es ih =>
    obtain ⟨u, r⟩ := e
    rw [List.map_cons, List.lookup_cons]
    dsimp only at ih ⊢
    by_cases hu : u = t
    · rw [if_pos hu, List.lookup_cons, hu, beq_self_eq_true]
      rfl
    · rw [if_neg hu, List.lookup_cons, beq_false_of_ne (Ne.symm hu)]
      exact ih

theorem findToken_putToken {m : Memory} {t new : String} (h : t ≠ new) (now : Time.Instant)
    (userId : Int) (expiresAt : Time.Instant) :
    (m.putToken now userId new expiresAt).findToken t = m.findToken t := by
  have hfilter : ∀ es : List (String × RefreshRecord),
      (es.filter fun (u, _) => u != new).lookup t = es.lookup t := by
    intro es
    induction es with
    | nil => rfl
    | cons e es ih =>
      obtain ⟨u, r⟩ := e
      by_cases hu : u = new
      · rw [List.filter_cons_of_neg (by simpa using hu), ih, List.lookup_cons,
          beq_false_of_ne (by rw [hu]; exact h)]
      · rw [List.filter_cons_of_pos (by simpa using hu), List.lookup_cons, List.lookup_cons, ih]
  unfold findToken putToken
  dsimp only
  rw [List.lookup_append, hfilter, List.lookup_cons, beq_false_of_ne h]
  exact Option.or_none

/-- A token that has been rotated is found revoked. -/
theorem findToken_rotated {m : Memory} {old new : String} {r : RefreshRecord}
    (hf : m.findToken old = some r) (hne : old ≠ new) (now : Time.Instant) (userId : Int)
    (expiresAt : Time.Instant) :
    ((m.mapToken old (revokedAt now)).putToken now userId new expiresAt).findToken old =
      some (revokedAt now r) := by
  rw [findToken_putToken hne, findToken_mapToken, hf]
  rfl

theorem isRevoked_of_isActive {r : RefreshRecord} {now : Time.Instant}
    (h : r.isActive now = true) : r.isRevoked = false := by
  unfold RefreshRecord.isActive at h
  simpa using (Bool.and_eq_true_iff.1 h).1

/-- A rotation spends the old text. -/
theorem holdsUnrevoked_rotated {m : Memory} {old : String} {r : RefreshRecord}
    (hf : m.findToken old = some r) (hr : r.isRevoked = false) (now : Time.Instant) (t : String) :
    [old].count t + ((m.mapToken old (revokedAt now)).holdsUnrevoked t).toNat ≤
      (m.holdsUnrevoked t).toNat := by
  by_cases ht : old = t
  · subst ht
    have hnot : (m.mapToken old (revokedAt now)).holdsUnrevoked old = false := by
      refine Bool.eq_false_iff.2 fun hb => ?_
      obtain ⟨r', hm, hr'⟩ := holdsUnrevoked_iff.1 hb
      exact (mem_mapToken_revokedAt hm hr').2 rfl
    rw [hnot, holdsUnrevoked_iff.2 ⟨r, mem_of_findToken hf, hr⟩, List.count_singleton_self]
    exact Nat.le_refl _
  · rw [List.count_singleton, beq_false_of_ne ht]
    have hle : ((m.mapToken old (revokedAt now)).holdsUnrevoked t).toNat ≤
        (m.holdsUnrevoked t).toNat :=
      holdsUnrevoked_le (fun u r hm hr => (mem_mapToken_revokedAt hm hr).1) t
    simpa using hle

theorem mem_revokeToken {m : Memory} {now : Time.Instant} {t u : String} {r : RefreshRecord}
    (hm : (u, r) ∈ (m.revokeToken now t).2.tokens) (hr : r.isRevoked = false) :
    (u, r) ∈ m.tokens := by
  unfold revokeToken at hm
  split at hm
  · exact hm
  · split at hm
    · exact hm
    · exact (mem_mapToken_revokedAt hm hr).1

/-- What is unrevoked when all tokens of a user have been revoked is another user's. -/
theorem mem_revokeAll {m : Memory} {now : Time.Instant} {userId : Int} {u : String}
    {r : RefreshRecord} (hm : (u, r) ∈ (m.revokeAll now userId).2.tokens)
    (hr : r.isRevoked = false) : (u, r) ∈ m.tokens ∧ r.userId ≠ userId := by
  obtain ⟨⟨u', r'⟩, hm', he⟩ := List.mem_map.1 hm
  dsimp only at he
  split at he
  · cases he
    rw [isRevoked_revokedAt] at hr
    cases hr
  · rename_i hnot
    cases he
    refine ⟨hm', fun hu => hnot ?_⟩
    unfold isUnrevokedOf
    rw [hu, hr, beq_self_eq_true]
    rfl

/-! ## Every question -/

/-- A text that is rotated had an unrevoked record before, and has one afterwards only if it has
been stored anew. -/
theorem rotates_le_mints (m : Memory) (now : Time.Instant) (q : Request) (t : String) :
    (q.rotates (m.answer now q).1).toList.count t + ((m.answer now q).2.holdsUnrevoked t).toNat ≤
      (m.holdsUnrevoked t).toNat + q.mints.toList.count t := by
  have hmono : ∀ m' : Memory,
      (∀ u r, (u, r) ∈ m'.tokens → r.isRevoked = false → (u, r) ∈ m.tokens) →
      0 + (m'.holdsUnrevoked t).toNat ≤ (m.holdsUnrevoked t).toNat + 0 := by
    intro m' h
    have := holdsUnrevoked_le h t
    omega
  have hsame : ∀ m' : Memory, m'.tokens = m.tokens →
      0 + (m'.holdsUnrevoked t).toNat ≤ (m.holdsUnrevoked t).toNat + 0 :=
    fun m' he => hmono m' fun u r hm _ => by rw [← he]; exact hm
  cases q with
  | createUser u =>
    refine hsame (m.createUser now u).2 ?_
    unfold createUser
    split <;> rfl
  | softDelete id =>
    refine hsame (m.softDelete now id).2 ?_
    unfold softDelete
    split <;> rfl
  | findUser | findCredentials | findByPhone | emailExists | permissionsOf | findToken =>
    exact hsame m rfl
  | createToken userId token expiresAt =>
    change 0 + ((m.createToken now userId token expiresAt).2.holdsUnrevoked t).toNat ≤
      _ + [token].count t
    rw [Nat.zero_add]
    unfold createToken
    split
    · exact Nat.le_add_right _ _
    · exact holdsUnrevoked_putToken m now userId token t expiresAt
  | rotateToken userId old new expiresAt =>
    change ((Request.rotateToken userId old new expiresAt).rotates
      (.ok (m.rotateToken now userId old new expiresAt).1)).toList.count t +
      ((m.rotateToken now userId old new expiresAt).2.holdsUnrevoked t).toNat ≤ _ + [new].count t
    rcases rotateToken_cases m now userId old new expiresAt with he | ⟨r, hr, _, hactive, he⟩
    · rw [he]
      change 0 + (m.holdsUnrevoked t).toNat ≤ _
      rw [Nat.zero_add]
      exact Nat.le_add_right _ _
    · rw [he]
      change [old].count t + (((m.mapToken old (revokedAt now)).putToken now userId new
        expiresAt).holdsUnrevoked t).toNat ≤ _
      have hput := holdsUnrevoked_putToken (m.mapToken old (revokedAt now)) now userId new t
        expiresAt
      have hspent := holdsUnrevoked_rotated hr (isRevoked_of_isActive hactive) now t
      omega
  | revokeToken token => exact hmono (m.revokeToken now token).2 fun u r => mem_revokeToken
  | revokeAll userId =>
    exact hmono (m.revokeAll now userId).2 fun u r hm hr => (mem_revokeAll hm hr).1
  | purge olderThan =>
    exact hmono (m.purge now olderThan).2 fun u r hm _ => (List.mem_filter.1 hm).1

end Memory

end SignIn.Store
