-- Records of refresh tokens over time. Each stems from a question that asked
-- to store its token, and once it is revoked only another such question can
-- make the text usable again.
import SignIn.Proofs.Store.Spending

namespace SignIn.Store

/-- Whose token a question asks to store, and its text. -/
def Request.stores : Request → Option (Int × String)
  | .createToken userId token _ => some (userId, token)
  | .rotateToken userId _ new _ => some (userId, new)
  | _ => none

namespace Memory

variable {m : Memory} {now : Time.Instant} {q : Request} {t : String} {r : RefreshRecord}

/-! ## Where records come from -/

/-- The record was there before with the same owner, and if it is not revoked, it is unchanged. -/
def Stems (m : Memory) (t : String) (r : RefreshRecord) : Prop :=
  ∃ old, (t, old) ∈ m.tokens ∧ old.userId = r.userId ∧ (r.isRevoked = false → old = r)

theorem Stems.of_mem (h : (t, r) ∈ m.tokens) : m.Stems t r := ⟨r, h, rfl, fun _ => rfl⟩

/-- Revoking some of the records leaves each with its text and owner. -/
theorem stems_of_map (revokes : String × RefreshRecord → Prop) [DecidablePred revokes]
    (h : (t, r) ∈ m.tokens.map fun e => if revokes e then (e.1, revokedAt now e.2) else e) :
    m.Stems t r := by
  obtain ⟨⟨t', old⟩, hm, he⟩ := List.mem_map.1 h
  by_cases hr : revokes (t', old)
  · rw [if_pos hr] at he
    cases he
    exact ⟨old, hm, rfl, fun hn => by cases hn⟩
  · rw [if_neg hr] at he
    cases he
    exact .of_mem hm

theorem stems_of_mapToken {token : String}
    (h : (t, r) ∈ (m.mapToken token (revokedAt now)).tokens) : m.Stems t r :=
  stems_of_map (fun e => e.1 = token) h

theorem mem_of_putToken {userId : Int} {new : String} {expiresAt : Time.Instant}
    (h : (t, r) ∈ (m.putToken now userId new expiresAt).tokens) :
    (t, r) ∈ m.tokens ∨ (r.userId = userId ∧ t = new) := by
  rcases List.mem_append.1 h with h | h
  · exact Or.inl (List.mem_filter.1 h).1
  · cases List.mem_singleton.1 h
    exact Or.inr ⟨rfl, rfl⟩

/-- The token has a record, of the user. -/
def HasRecord (m : Memory) (userId : Int) (t : String) : Prop :=
  ∃ r, (t, r) ∈ m.tokens ∧ r.userId = userId

theorem hasRecord_putToken (m : Memory) (now : Time.Instant) (userId : Int) (new : String)
    (expiresAt : Time.Instant) : (m.putToken now userId new expiresAt).HasRecord userId new :=
  ⟨_, List.mem_append_right _ List.mem_cons_self, rfl⟩

theorem hasRecord_of_createToken {userId : Int} {new : String} {expiresAt : Time.Instant}
    {m' : Memory} (h : m.answer now (.createToken userId new expiresAt) = (.ok (), m')) :
    m'.HasRecord userId new := by
  change m.createToken now userId new expiresAt = _ at h
  unfold createToken at h
  split at h
  · cases h
  · cases h
    exact hasRecord_putToken m now userId new expiresAt

theorem hasRecord_of_rotateToken {userId : Int} {old new : String} {expiresAt : Time.Instant}
    {m' : Memory} (h : m.answer now (.rotateToken userId old new expiresAt) = (.ok true, m')) :
    m'.HasRecord userId new := by
  change (Except.ok (m.rotateToken now userId old new expiresAt).1,
    (m.rotateToken now userId old new expiresAt).2) = _ at h
  rcases rotateToken_cases m now userId old new expiresAt with he | ⟨_, _, _, _, he⟩
  · rw [he] at h
    cases h
  · rw [he] at h
    cases h
    exact hasRecord_putToken _ now userId new expiresAt

theorem tokens_softDelete (m : Memory) (now : Time.Instant) (id : Int) :
    (m.softDelete now id).2.tokens = m.tokens := by
  unfold softDelete
  split <;> rfl

/-- A record stems from one that was there before, or the question asked to store its token. -/
theorem stems_of_answer (h : (t, r) ∈ (m.answer now q).2.tokens) :
    m.Stems t r ∨ q.stores = some (r.userId, t) := by
  cases q with
  | createUser new =>
    change (t, r) ∈ (m.createUser now new).2.tokens at h
    unfold createUser at h
    split at h <;> exact Or.inl (.of_mem h)
  | softDelete id =>
    change (t, r) ∈ (m.softDelete now id).2.tokens at h
    rw [tokens_softDelete] at h
    exact Or.inl (.of_mem h)
  | findUser | findCredentials | findByPhone | emailExists | permissionsOf | findToken =>
    exact Or.inl (.of_mem h)
  | createToken userId token expiresAt =>
    change (t, r) ∈ (m.createToken now userId token expiresAt).2.tokens at h
    unfold createToken at h
    split at h
    · exact Or.inl (.of_mem h)
    · rcases mem_of_putToken h with h | ⟨rfl, rfl⟩
      · exact Or.inl (.of_mem h)
      · exact Or.inr rfl
  | rotateToken userId old new expiresAt =>
    change (t, r) ∈ (m.rotateToken now userId old new expiresAt).2.tokens at h
    rcases rotateToken_cases m now userId old new expiresAt with he | ⟨_, _, _, _, he⟩
    · rw [he] at h
      exact Or.inl (.of_mem h)
    · rw [he] at h
      rcases mem_of_putToken h with h | ⟨rfl, rfl⟩
      · exact Or.inl (stems_of_mapToken h)
      · exact Or.inr rfl
  | revokeToken token =>
    change (t, r) ∈ (m.revokeToken now token).2.tokens at h
    unfold revokeToken at h
    split at h
    · exact Or.inl (.of_mem h)
    · split at h
      · exact Or.inl (.of_mem h)
      · exact Or.inl (stems_of_mapToken h)
  | revokeAll userId =>
    exact Or.inl (stems_of_map (fun e => isUnrevokedOf userId e.2 = true) h)
  | purge olderThan => exact Or.inl (.of_mem (List.mem_filter.1 h).1)

/-- A text stays without an unrevoked record until a token of that text is stored. -/
theorem holdsUnrevoked_answer (h : m.holdsUnrevoked t = false) (now : Time.Instant)
    (hq : ∀ u, q.stores ≠ some (u, t)) : (m.answer now q).2.holdsUnrevoked t = false := by
  refine Bool.eq_false_iff.2 fun hb => ?_
  obtain ⟨r, hm, hr⟩ := holdsUnrevoked_iff.1 hb
  rcases stems_of_answer hm with ⟨old, hold, _, heq⟩ | hs
  · rw [heq hr] at hold
    rw [holdsUnrevoked_iff.2 ⟨r, hold, hr⟩] at h
    cases h
  · exact hq _ hs

/-! ## One record for each text -/

/-- No two records have the same text. -/
def IsKeyed (m : Memory) : Prop := ∀ t r r', (t, r) ∈ m.tokens → (t, r') ∈ m.tokens → r = r'

theorem isKeyed_empty (roles : List (Int × List String)) (defaultRole : Option Int) :
    (empty roles defaultRole).IsKeyed := fun _ _ _ h => absurd h List.not_mem_nil

theorem IsKeyed.of_subset (h : m.IsKeyed) {m' : Memory} (hs : m'.tokens ⊆ m.tokens) :
    m'.IsKeyed := fun t r r' hr hr' => h t r r' (hs hr) (hs hr')

/-- Records that are changed one by one, each under its text, stay one for each text. -/
theorem IsKeyed.of_map (h : m.IsKeyed) {m' : Memory} {f : String × RefreshRecord → RefreshRecord}
    (hm : m'.tokens = m.tokens.map fun e => (e.1, f e)) : m'.IsKeyed := by
  intro t r r' hr hr'
  rw [hm] at hr hr'
  obtain ⟨⟨u, old⟩, ho, he⟩ := List.mem_map.1 hr
  obtain ⟨⟨u', old'⟩, ho', he'⟩ := List.mem_map.1 hr'
  cases he
  cases he'
  rw [h _ _ _ ho ho']

theorem IsKeyed.mapToken (h : m.IsKeyed) (token : String) (f : RefreshRecord → RefreshRecord) :
    (m.mapToken token f).IsKeyed := by
  refine h.of_map (f := fun e => if e.1 = token then f e.2 else e.2)
    (List.map_congr_left fun e _ => ?_)
  obtain ⟨u, r⟩ := e
  dsimp only
  split <;> rfl

theorem IsKeyed.putToken (h : m.IsKeyed) (now : Time.Instant) (userId : Int) (new : String)
    (expiresAt : Time.Instant) : (m.putToken now userId new expiresAt).IsKeyed := by
  -- No other record of the new text is left.
  have hother : ∀ r, (new, r) ∉ m.tokens.filter (fun e => e.1 != new) := by
    intro r hm
    simpa using (List.mem_filter.1 hm).2
  intro t r r' hr hr'
  rcases List.mem_append.1 hr with hr | hr
  · rcases List.mem_append.1 hr' with hr' | hr'
    · exact h t r r' (List.mem_filter.1 hr).1 (List.mem_filter.1 hr').1
    · cases List.mem_singleton.1 hr'
      exact absurd hr (hother r)
  · cases List.mem_singleton.1 hr
    rcases List.mem_append.1 hr' with hr' | hr'
    · exact absurd hr' (hother r')
    · cases List.mem_singleton.1 hr'
      rfl

theorem IsKeyed.answer (h : m.IsKeyed) (now : Time.Instant) (q : Request) :
    (m.answer now q).2.IsKeyed := by
  cases q with
  | createUser new =>
    change (m.createUser now new).2.IsKeyed
    unfold createUser
    split <;> exact h
  | softDelete id =>
    change (m.softDelete now id).2.IsKeyed
    unfold softDelete
    split <;> exact h
  | findUser | findCredentials | findByPhone | emailExists | permissionsOf | findToken => exact h
  | createToken userId token expiresAt =>
    change (m.createToken now userId token expiresAt).2.IsKeyed
    unfold createToken
    split
    · exact h
    · exact h.putToken now userId token expiresAt
  | rotateToken userId old new expiresAt =>
    change (m.rotateToken now userId old new expiresAt).2.IsKeyed
    rcases rotateToken_cases m now userId old new expiresAt with he | ⟨_, _, _, _, he⟩
    · rw [he]
      exact h
    · rw [he]
      exact (h.mapToken old _).putToken now userId new expiresAt
  | revokeToken token =>
    change (m.revokeToken now token).2.IsKeyed
    unfold revokeToken
    split
    · exact h
    · split
      · exact h
      · exact h.mapToken token _
  | revokeAll userId =>
    refine h.of_map (f := fun e => if isUnrevokedOf userId e.2 then revokedAt now e.2 else e.2)
      (List.map_congr_left fun e _ => ?_)
    obtain ⟨u, r⟩ := e
    dsimp only
    split <;> rfl
  | purge olderThan => exact h.of_subset fun _ hm => (List.mem_filter.1 hm).1

theorem IsKeyed.findToken_of_mem (h : m.IsKeyed) (hm : (t, r) ∈ m.tokens) :
    m.findToken t = some r := by
  cases hf : m.findToken t with
  | none =>
    have hne := List.lookup_eq_none_iff.1 hf (t, r) hm
    simp at hne
  | some r' => rw [h t r' r (mem_of_findToken hf) hm]

/-- Once a text is revoked, it has no unrevoked record. -/
theorem IsKeyed.holdsUnrevoked_revokeToken (h : m.IsKeyed) (now : Time.Instant) (t : String) :
    (m.revokeToken now t).2.holdsUnrevoked t = false := by
  refine Bool.eq_false_iff.2 fun hb => ?_
  obtain ⟨r, hm, hr⟩ := holdsUnrevoked_iff.1 hb
  have hfound := h.findToken_of_mem (mem_revokeToken hm hr)
  unfold revokeToken at hm
  rw [hfound] at hm
  dsimp only at hm
  rw [if_neg (by simp [hr])] at hm
  exact (mem_mapToken_revokedAt hm hr).2 rfl

end Memory

end SignIn.Store
