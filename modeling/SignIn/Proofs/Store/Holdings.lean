-- What is whose in the store: the row of a user's account and the records of
-- its refresh tokens. A question that is about somebody else leaves them
-- exactly as they are.
import SignIn.Proofs.Store.Owners
import SignIn.Proofs.Store.Records

namespace SignIn.Store

/-- Where the elements that count are changed by nothing, they stay the same. -/
theorem filter_map_eq_filter {α : Type} {l : List α} {f : α → α} {p : α → Bool}
    (hp : ∀ a ∈ l, p (f a) = p a) (hf : ∀ a ∈ l, p a = true → f a = a) :
    (l.map f).filter p = l.filter p := by
  induction l with
  | nil => rfl
  | cons a l ih =>
    have ih := ih (fun b hb => hp b (.tail _ hb)) fun b hb => hf b (.tail _ hb)
    have ha := hp a (.head _)
    rw [List.map_cons]
    by_cases h : p a = true
    · rw [List.filter_cons_of_pos (ha.trans h), List.filter_cons_of_pos h, ih, hf a (.head _) h]
    · rw [List.filter_cons_of_neg (by rw [ha]; exact h), List.filter_cons_of_neg h, ih]

namespace Memory

/-- The account of a user, deleted or not. -/
def rowsOf (m : Memory) (v : Int) : List Row := m.rows.filter fun r => r.user.id == v

/-- The records of a user's refresh tokens, with their texts. -/
def recordsOf (m : Memory) (v : Int) : List (String × RefreshRecord) :=
  m.tokens.filter fun e => e.2.userId == v

end Memory

/-- The question neither creates nor deletes the account of the user, and has no say in the records
that the user has in `m`. -/
def Request.Spares (m : Memory) (v : Int) : Request → Prop
  | .createUser _ => m.lastUserId + 1 ≠ v
  | .softDelete u | .revokeAll u | .createToken u _ _ => u ≠ v
  | .rotateToken u old new _ => u ≠ v ∧ ¬ m.HasRecord v old ∧ ¬ m.HasRecord v new
  | .revokeToken t => ¬ m.HasRecord v t
  | .purge _ => False
  | _ => True

namespace Memory

variable {m : Memory} {now : Time.Instant} {q : Request} {u v : Int} {t : String}

/-! ## Accounts -/

theorem rowsOf_createUser (h : m.lastUserId + 1 ≠ v) (now : Time.Instant) (new : NewUser) :
    (m.createUser now new).2.rowsOf v = m.rowsOf v := by
  unfold createUser
  split
  · rfl
  · change (m.rows ++ [m.newRow now new]).filter _ = _
    rw [List.filter_append,
      List.filter_cons_of_neg (p := fun r : Row => r.user.id == v) fun he => h (eq_of_beq he)]
    exact List.append_nil _

theorem rowsOf_softDelete (h : u ≠ v) (m : Memory) (now : Time.Instant) :
    (m.softDelete now u).2.rowsOf v = m.rowsOf v := by
  rcases softDelete_eq m now u with he | he
  · rw [he]
    refine filter_map_eq_filter (fun r _ => ?_) fun r _ hr => ?_
    · rw [(markedRow_user now u r).1]
    · exact markedRow_of_ne fun hid => h (hid.symm.trans (eq_of_beq hr))
  · rw [he]

/-! ## Records -/

theorem recordsOf_mapToken (h : ¬ m.HasRecord v t) (now : Time.Instant) :
    (m.mapToken t (revokedAt now)).recordsOf v = m.recordsOf v := by
  refine filter_map_eq_filter (fun e _ => ?_) fun e he hv => ?_
  · obtain ⟨t', r⟩ := e
    dsimp only
    split <;> rfl
  · obtain ⟨t', r⟩ := e
    dsimp only
    rw [if_neg]
    rintro rfl
    exact h ⟨r, he, eq_of_beq hv⟩

theorem recordsOf_putToken (hu : u ≠ v) (h : ¬ m.HasRecord v t) (now expiresAt : Time.Instant) :
    (m.putToken now u t expiresAt).recordsOf v = m.recordsOf v := by
  unfold recordsOf putToken
  dsimp only
  rw [List.filter_append, List.filter_filter, List.filter_cons_of_neg
    (p := fun e : String × RefreshRecord => e.2.userId == v) fun he => hu (eq_of_beq he)]
  refine (List.append_nil _).trans (List.filter_congr fun e he => ?_)
  obtain ⟨t', r⟩ := e
  dsimp only
  cases hv : r.userId == v with
  | false => rfl
  | true =>
    have hne : t' ≠ t := by
      rintro rfl
      exact h ⟨r, he, eq_of_beq hv⟩
    simpa using hne

theorem recordsOf_revokeAll (h : u ≠ v) (m : Memory) (now : Time.Instant) :
    (m.revokeAll now u).2.recordsOf v = m.recordsOf v := by
  refine filter_map_eq_filter (fun e _ => ?_) fun e _ hv => ?_
  · obtain ⟨t', r⟩ := e
    dsimp only
    split <;> rfl
  · obtain ⟨t', r⟩ := e
    dsimp only
    rw [if_neg]
    intro hunrevoked
    unfold isUnrevokedOf at hunrevoked
    have hid : r.userId = u := eq_of_beq (Bool.and_eq_true_iff.1 hunrevoked).1
    exact h (hid.symm.trans (eq_of_beq hv))

theorem recordsOf_createToken (hu : u ≠ v) (m : Memory) (now : Time.Instant) (t : String)
    (expiresAt : Time.Instant) :
    (m.createToken now u t expiresAt).2.recordsOf v = m.recordsOf v := by
  unfold createToken
  split
  · rfl
  · rename_i hnone
    -- The text has no record yet, so that none is replaced.
    refine recordsOf_putToken hu (fun ⟨r, hr, _⟩ => hnone ?_) now expiresAt
    exact List.lookup_isSome_iff.2 ⟨(t, r), hr, beq_self_eq_true t⟩

theorem recordsOf_rotateToken {old new : String} (hu : u ≠ v) (hold : ¬ m.HasRecord v old)
    (hnew : ¬ m.HasRecord v new) (now expiresAt : Time.Instant) :
    (m.rotateToken now u old new expiresAt).2.recordsOf v = m.recordsOf v := by
  rcases rotateToken_cases m now u old new expiresAt with he | ⟨r, _, _, _, he⟩
  · rw [he]
  · rw [he]
    refine (recordsOf_putToken hu (fun ⟨r', hr', hv⟩ => hnew ?_) now expiresAt).trans
      (recordsOf_mapToken hold now)
    obtain ⟨before, hbefore, hsame, _⟩ := stems_of_mapToken hr'
    exact ⟨before, hbefore, hsame.trans hv⟩

theorem recordsOf_revokeToken (h : ¬ m.HasRecord v t) (now : Time.Instant) :
    (m.revokeToken now t).2.recordsOf v = m.recordsOf v := by
  unfold revokeToken
  split
  · rfl
  · split
    · rfl
    · exact recordsOf_mapToken h now

end Memory

/-! ## Every question -/

/-- A question that spares a user leaves the user's account as it is. -/
theorem Request.Spares.rowsOf_eq {m : Memory} {v : Int} {q : Request} (h : q.Spares m v)
    (now : Time.Instant) : (m.answer now q).2.rowsOf v = m.rowsOf v := by
  by_cases hs : Memory.SparesAccounts q
  · unfold Memory.rowsOf
    rw [(hs.same m now).rows]
  · cases q with
    | createUser new => exact Memory.rowsOf_createUser h now new
    | softDelete u => exact Memory.rowsOf_softDelete h m now
    | _ => exact absurd trivial hs

/-- A question that spares a user leaves the records of the user's refresh tokens as they are. -/
theorem Request.Spares.recordsOf_eq {m : Memory} {v : Int} {q : Request} (h : q.Spares m v)
    (now : Time.Instant) : (m.answer now q).2.recordsOf v = m.recordsOf v := by
  cases q with
  | createUser new =>
    change (m.createUser now new).2.recordsOf v = m.recordsOf v
    unfold Memory.createUser
    split <;> rfl
  | softDelete u =>
    change (m.softDelete now u).2.recordsOf v = m.recordsOf v
    unfold Memory.softDelete
    split <;> rfl
  | createToken u t expiresAt => exact Memory.recordsOf_createToken h m now t expiresAt
  | rotateToken u old new expiresAt =>
    exact Memory.recordsOf_rotateToken h.1 h.2.1 h.2.2 now expiresAt
  | revokeToken t => exact Memory.recordsOf_revokeToken h now
  | revokeAll u => exact Memory.recordsOf_revokeAll h m now
  | purge olderThan => exact h.elim
  | findUser | findCredentials | findByPhone | emailExists | permissionsOf | findToken => rfl

end SignIn.Store
