-- The roles of accounts. No question changes the role of an account that is
-- there, and an account that is created without a role gets the default one.
import SignIn.Proofs.Store.Owners

namespace SignIn.Store.Memory

variable {m m' m'' : Memory} {now : Time.Instant} {q : Request}

/-! ## Rows -/

/-- A row after a question is of an account that was there before, with its id, its role and its
password, or it is that of the account that has been asked for. -/
theorem mem_rows_answer {row : Row} (h : row ∈ (m.answer now q).2.rows) :
    (∃ old ∈ m.rows, old.user.id = row.user.id ∧ old.user.role = row.user.role ∧
        old.passwordHash = row.passwordHash) ∨
      ∃ new, q = .createUser new ∧ row = m.newRow now new := by
  by_cases hs : SparesAccounts q
  · rw [(hs.same m now).rows] at h
    exact Or.inl ⟨row, h, rfl, rfl, rfl⟩
  · cases q with
    | createUser new =>
      change row ∈ (m.createUser now new).2.rows at h
      unfold createUser at h
      split at h
      · exact Or.inl ⟨row, h, rfl, rfl, rfl⟩
      · rcases List.mem_append.1 h with h | h
        · exact Or.inl ⟨row, h, rfl, rfl, rfl⟩
        · exact Or.inr ⟨new, rfl, List.mem_singleton.1 h⟩
    | softDelete id =>
      change row ∈ (m.softDelete now id).2.rows at h
      rcases softDelete_eq m now id with he | he
      · rw [he] at h
        obtain ⟨old, hold, rfl⟩ := List.mem_map.1 h
        refine Or.inl ⟨old, hold, ?_⟩
        unfold markedRow
        split <;> exact ⟨rfl, rfl, rfl⟩
      · rw [he] at h
        exact Or.inl ⟨row, h, rfl, rfl, rfl⟩
    | _ => exact absurd trivial hs

/-- An account stays in the store, with its id and its role. -/
theorem exists_mem_rows_answer {row : Row} (h : row ∈ m.rows) (now : Time.Instant) (q : Request) :
    ∃ row' ∈ (m.answer now q).2.rows, row'.user.id = row.user.id ∧
      row'.user.role = row.user.role := by
  by_cases hs : SparesAccounts q
  · rw [(hs.same m now).rows]
    exact ⟨row, h, rfl, rfl⟩
  · cases q with
    | createUser new => exact ⟨row, mem_createUser h now new, rfl, rfl⟩
    | softDelete id =>
      obtain ⟨row', hrow', hid, _, hrole⟩ := mem_softDelete h now id
      exact ⟨row', hrow', hid, hrole⟩
    | _ => exact absurd trivial hs

theorem roles_answer (m : Memory) (now : Time.Instant) (q : Request) :
    (m.answer now q).2.roles = m.roles := by
  by_cases hs : SparesAccounts q
  · exact (hs.same m now).roles
  · cases q with
    | createUser new => exact roles_createUser m now new
    | softDelete id => exact roles_softDelete m now id
    | _ => exact absurd trivial hs

/-- The default role stays what it is. -/
theorem defaultRole_answer (m : Memory) (now : Time.Instant) (q : Request) :
    (m.answer now q).2.defaultRole = m.defaultRole := by
  cases q with
  | createUser new =>
    change (m.createUser now new).2.defaultRole = _
    unfold createUser
    split <;> rfl
  | softDelete id =>
    change (m.softDelete now id).2.defaultRole = _
    unfold softDelete
    split <;> rfl
  | createToken u t expiresAt =>
    change (m.createToken now u t expiresAt).2.defaultRole = _
    unfold createToken
    split <;> rfl
  | rotateToken u old new expiresAt =>
    change (m.rotateToken now u old new expiresAt).2.defaultRole = _
    unfold rotateToken
    split
    · rfl
    · split <;> rfl
  | revokeToken t =>
    change (m.revokeToken now t).2.defaultRole = _
    unfold revokeToken
    split
    · rfl
    · split <;> rfl
  | findUser | findCredentials | findByPhone | emailExists | permissionsOf | findToken | revokeAll
  | purge => rfl

/-! ## Roles -/

/-- What each role grants is the same, no account has changed its role, and those that are new have
the default role. -/
structure KeepsRoles (m m' : Memory) : Prop where
  roles : m'.roles = m.roles
  default : m'.defaultRole = m.defaultRole
  last : m.lastUserId ≤ m'.lastUserId
  kept : ∀ row ∈ m.rows, ∃ row' ∈ m'.rows, row'.user.id = row.user.id ∧
    row'.user.role = row.user.role
  added : ∀ row' ∈ m'.rows, (∃ row ∈ m.rows, row.user.id = row'.user.id ∧
    row.user.role = row'.user.role) ∨
    m.lastUserId < row'.user.id ∧ row'.user.role = m.defaultRole

theorem KeepsRoles.refl (m : Memory) : KeepsRoles m m :=
  ⟨rfl, rfl, Int.le_refl _, fun row h => ⟨row, h, rfl, rfl⟩, fun row h => Or.inl ⟨row, h, rfl, rfl⟩⟩

theorem KeepsRoles.trans (h : KeepsRoles m m') (h' : KeepsRoles m' m'') : KeepsRoles m m'' := by
  refine ⟨h'.roles.trans h.roles, h'.default.trans h.default, Int.le_trans h.last h'.last,
    fun row hrow => ?_, fun row hrow => ?_⟩
  · obtain ⟨row', hrow', hid, hrole⟩ := h.kept row hrow
    obtain ⟨row'', hrow'', hid', hrole'⟩ := h'.kept row' hrow'
    exact ⟨row'', hrow'', hid'.trans hid, hrole'.trans hrole⟩
  · rcases h'.added row hrow with ⟨row', hrow', hid, hrole⟩ | ⟨hid, hrole⟩
    · rw [← hid, ← hrole]
      exact h.added row' hrow'
    · exact Or.inr ⟨Int.lt_of_le_of_lt h.last hid, hrole.trans h.default⟩

/-- Roles are kept by every question that asks for no account with a role of its own. -/
theorem KeepsRoles.answer (h : KeepsRoles m m') (now : Time.Instant)
    (hq : ∀ new, q = .createUser new → new.role = none) : KeepsRoles m (m'.answer now q).2 := by
  refine h.trans ⟨roles_answer m' now q, defaultRole_answer m' now q,
    lastUserId_le_answer m' now q, fun row hrow => exists_mem_rows_answer hrow now q,
    fun row hrow => ?_⟩
  rcases mem_rows_answer hrow with ⟨old, hold, hid, hrole, _⟩ | ⟨new, rfl, rfl⟩
  · exact Or.inl ⟨old, hold, hid, hrole⟩
  · refine Or.inr ⟨Int.lt_succ _, ?_⟩
    change new.role.or m'.defaultRole = m'.defaultRole
    rw [hq new rfl]
    rfl

theorem KeepsRoles.grantedTo_eq (h : KeepsRoles m m') (role : Option Int) :
    m'.grantedTo role = m.grantedTo role := by
  unfold grantedTo permissionsOf
  rw [h.roles]

/-- An account that was not there before has the default role. -/
theorem KeepsRoles.role_of_new (h : KeepsRoles m m') {row : Row} (hrow : row ∈ m'.rows)
    (hnew : ∀ old ∈ m.rows, old.user.id ≠ row.user.id) : row.user.role = m.defaultRole := by
  rcases h.added row hrow with ⟨old, hold, hid, _⟩ | ⟨_, hrole⟩
  · exact absurd hid (hnew old hold)
  · exact hrole

end SignIn.Store.Memory
