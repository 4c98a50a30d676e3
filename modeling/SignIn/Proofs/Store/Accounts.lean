-- What the store keeps of its accounts: their ids grow, an account is found by
-- its id until it is deleted, and only two questions touch accounts at all.
import SignIn.Store.Memory

namespace SignIn.Store.Memory

/-! ## Numbered accounts -/

/-- The ids of the accounts grow, and none is beyond the latest. -/
structure Numbered (m : Memory) : Prop where
  sorted : m.rows.Pairwise fun r t => r.user.id < t.user.id
  le_last : ∀ r ∈ m.rows, r.user.id ≤ m.lastUserId

theorem numbered_empty (roles : List (Int × List String)) (defaultRole : Option Int) :
    (empty roles defaultRole).Numbered :=
  ⟨.nil, fun _ h => absurd h List.not_mem_nil⟩

theorem mem_liveRows {m : Memory} {r : Row} : r ∈ m.liveRows ↔ r ∈ m.rows ∧ r.isLive = true :=
  List.mem_filter

/-- No two accounts have the same id. -/
theorem Numbered.eq_of_id {m : Memory} (h : m.Numbered) {r t : Row} (hr : r ∈ m.rows)
    (ht : t ∈ m.rows) (hid : r.user.id = t.user.id) : r = t := by
  obtain ⟨i, hi, rfl⟩ := List.getElem_of_mem hr
  obtain ⟨j, hj, rfl⟩ := List.getElem_of_mem ht
  have hp := List.pairwise_iff_getElem.1 h.sorted
  rcases Nat.lt_trichotomy i j with hij | rfl | hij
  · have := hp i j hi hj hij
    omega
  · rfl
  · have := hp j i hj hi hij
    omega

/-- A live account is found by its id. -/
theorem Numbered.findUser_of_mem {m : Memory} (h : m.Numbered) {r : Row} (hr : r ∈ m.liveRows) :
    m.findUser r.user.id = some r.user := by
  unfold findUser
  cases hf : m.liveRows.find? fun t => t.user.id == r.user.id with
  | none =>
    have := List.find?_eq_none.1 hf r hr
    simp at this
  | some t =>
    have ht := List.mem_of_find?_eq_some hf
    have hid : t.user.id = r.user.id := by simpa using List.find?_some hf
    rw [h.eq_of_id (mem_liveRows.1 ht).1 (mem_liveRows.1 hr).1 hid, Option.map_some]

theorem mem_of_findUser {m : Memory} {id : Int} {u : User} (h : m.findUser id = some u) :
    ∃ r ∈ m.liveRows, r.user = u ∧ u.id = id := by
  unfold findUser at h
  obtain ⟨r, hr, rfl⟩ := Option.map_eq_some_iff.1 h
  exact ⟨r, List.mem_of_find?_eq_some hr, rfl, by simpa using List.find?_some hr⟩

theorem mem_of_findCredentials {m : Memory} {email : String} {c : Credentials}
    (h : m.findCredentials email = some c) :
    ∃ r ∈ m.liveRows, r.user.id = c.id ∧ r.user.email = c.email := by
  unfold findCredentials at h
  obtain ⟨r, hr, rfl⟩ := Option.map_eq_some_iff.1 h
  exact ⟨r, List.mem_of_find?_eq_some hr, rfl, rfl⟩

theorem mem_of_findByPhone {m : Memory} {phone : String} {u : User}
    (h : m.findByPhone phone = some u) : ∃ r ∈ m.liveRows, r.user = u := by
  unfold findByPhone at h
  obtain ⟨r, hr, rfl⟩ := Option.map_eq_some_iff.1 h
  exact ⟨r, List.mem_of_find?_eq_some hr, rfl⟩

/-- The permissions of a user's role. -/
def grantedTo (m : Memory) (role : Option Int) : List String :=
  match role with
  | some role => m.permissionsOf role
  | none => []

/-! ## What questions do to accounts -/

/-- The accounts and the roles are the same. -/
structure SameAccounts (m m' : Memory) : Prop where
  rows : m'.rows = m.rows
  last : m'.lastUserId = m.lastUserId
  roles : m'.roles = m.roles

theorem SameAccounts.refl (m : Memory) : SameAccounts m m := ⟨rfl, rfl, rfl⟩

theorem SameAccounts.of_eq {m m' : Memory} (h : m' = m) : SameAccounts m m' := by
  rw [h]
  exact .refl m

theorem SameAccounts.trans {m m' m'' : Memory} (h : SameAccounts m m') (h' : SameAccounts m' m'') :
    SameAccounts m m'' :=
  ⟨h'.rows.trans h.rows, h'.last.trans h.last, h'.roles.trans h.roles⟩

section
variable {m m' : Memory} (h : SameAccounts m m')
include h

theorem SameAccounts.numbered (hn : m.Numbered) : m'.Numbered := by
  refine ⟨?_, ?_⟩
  · rw [h.rows]
    exact hn.sorted
  · rw [h.rows, h.last]
    exact hn.le_last

theorem SameAccounts.liveRows_eq : m'.liveRows = m.liveRows := by
  unfold liveRows
  rw [h.rows]

theorem SameAccounts.findUser_eq (id : Int) : m'.findUser id = m.findUser id := by
  unfold findUser
  rw [h.liveRows_eq]

theorem SameAccounts.grantedTo_eq (role : Option Int) : m'.grantedTo role = m.grantedTo role := by
  unfold grantedTo permissionsOf
  rw [h.roles]

end

/-- A question that neither creates nor deletes an account. -/
def SparesAccounts : Request → Prop
  | .createUser _ => False
  | .softDelete _ => False
  | _ => True

theorem SparesAccounts.same {q : Request} (hq : SparesAccounts q) (m : Memory)
    (now : Time.Instant) :
    SameAccounts m (m.answer now q).2 := by
  cases q with
  | createUser u => exact hq.elim
  | softDelete id => exact hq.elim
  | createToken userId token expiresAt =>
    change SameAccounts m (m.createToken now userId token expiresAt).2
    unfold createToken
    split <;> exact ⟨rfl, rfl, rfl⟩
  | rotateToken userId old new expiresAt =>
    change SameAccounts m (m.rotateToken now userId old new expiresAt).2
    unfold rotateToken
    split
    · exact .refl m
    · split <;> exact ⟨rfl, rfl, rfl⟩
  | revokeToken token =>
    change SameAccounts m (m.revokeToken now token).2
    unfold revokeToken
    split
    · exact .refl m
    · split <;> exact ⟨rfl, rfl, rfl⟩
  | revokeAll userId => exact ⟨rfl, rfl, rfl⟩
  | purge olderThan => exact ⟨rfl, rfl, rfl⟩
  | findUser id => exact .refl m
  | findCredentials email => exact .refl m
  | findByPhone phone => exact .refl m
  | emailExists email => exact .refl m
  | permissionsOf role => exact .refl m
  | findToken token => exact .refl m

/-- A question that is answered with an error leaves the store as it was. -/
theorem answer_of_error {m : Memory} {now : Time.Instant} {q : Request} {e : StoreError}
    (h : (m.answer now q).1 = .error e) : (m.answer now q).2 = m := by
  cases q with
  | createUser u =>
    change (m.createUser now u).1 = _ at h
    change (m.createUser now u).2 = m
    unfold createUser at h ⊢
    split
    · rfl
    · rename_i hn
      rw [if_neg hn] at h
      cases h
  | createToken userId token expiresAt =>
    change (m.createToken now userId token expiresAt).1 = _ at h
    change (m.createToken now userId token expiresAt).2 = m
    unfold createToken at h ⊢
    split
    · rfl
    · rename_i hn
      rw [if_neg hn] at h
      cases h
  | findUser id => rfl
  | findCredentials email => rfl
  | findByPhone phone => rfl
  | emailExists email => rfl
  | permissionsOf role => rfl
  | findToken token => rfl
  | softDelete id => cases h
  | rotateToken userId old new expiresAt => cases h
  | revokeToken token => cases h
  | revokeAll userId => cases h
  | purge olderThan => cases h

/-! ## Accounts that are created or deleted -/

theorem createUser_of_ok {m : Memory} {now : Time.Instant} {u : NewUser} {id : Int}
    (h : (m.createUser now u).1 = .ok id) :
    id = m.lastUserId + 1 ∧ (m.createUser now u).2 =
      { m with rows := m.rows ++ [m.newRow now u], lastUserId := m.lastUserId + 1 } := by
  unfold createUser at h ⊢
  split
  · rename_i ht
    rw [if_pos ht] at h
    cases h
  · rename_i ht
    rw [if_neg ht] at h
    cases h
    exact ⟨rfl, rfl⟩

theorem createUser_of_free {m : Memory} {u : NewUser} (h : m.isTaken u.email u.phone = false)
    (now : Time.Instant) : m.createUser now u = (.ok (m.lastUserId + 1),
      { m with rows := m.rows ++ [m.newRow now u], lastUserId := m.lastUserId + 1 }) := by
  unfold createUser
  rw [h]
  rfl

theorem Numbered.createUser {m : Memory} (h : m.Numbered) (now : Time.Instant) (u : NewUser) :
    (m.createUser now u).2.Numbered := by
  unfold Memory.createUser
  split
  · exact h
  · refine ⟨?_, fun r hr => ?_⟩
    · refine List.pairwise_append.2 ⟨h.sorted, List.pairwise_singleton _ _, fun r hr t ht => ?_⟩
      rw [List.mem_singleton] at ht
      subst ht
      have := h.le_last r hr
      change r.user.id < m.lastUserId + 1
      omega
    · change r.user.id ≤ m.lastUserId + 1
      rcases List.mem_append.1 hr with hr | hr
      · have := h.le_last r hr
        omega
      · rw [List.mem_singleton] at hr
        subst hr
        exact Int.le_refl _

/-- A new account is found by its id. -/
theorem Numbered.findUser_created {m : Memory} (h : m.Numbered) {now : Time.Instant} {u : NewUser}
    {id : Int} (hok : (m.createUser now u).1 = .ok id) :
    (m.createUser now u).2.findUser id = some (m.newRow now u).user := by
  obtain ⟨rfl, he⟩ := createUser_of_ok hok
  have hm : m.newRow now u ∈ (m.createUser now u).2.liveRows := by
    rw [mem_liveRows, he]
    exact ⟨List.mem_append_right _ List.mem_cons_self, rfl⟩
  exact (h.createUser now u).findUser_of_mem hm

theorem Numbered.email_created {m : Memory} (h : m.Numbered) {now : Time.Instant} {u : NewUser}
    {id : Int} (hok : (m.createUser now u).1 = .ok id) {user : User}
    (hu : (m.createUser now u).2.findUser id = some user) : user.email = u.email := by
  rw [h.findUser_created hok] at hu
  rw [← Option.some.inj hu]
  rfl

theorem mem_createUser {m : Memory} {r : Row} (hr : r ∈ m.rows) (now : Time.Instant) (u : NewUser) :
    r ∈ (m.createUser now u).2.rows := by
  unfold createUser
  split
  · exact hr
  · exact List.mem_append_left _ hr

/-- The row with a mark of deletion, if it is the one that is deleted. -/
def markedRow (now : Time.Instant) (id : Int) (r : Row) : Row :=
  if r.user.id == id && r.isLive then Row.deleted r now else r

theorem markedRow_user (now : Time.Instant) (id : Int) (r : Row) :
    (markedRow now id r).user.id = r.user.id ∧ (markedRow now id r).user.email = r.user.email ∧
      (markedRow now id r).user.role = r.user.role := by
  unfold markedRow
  split <;> exact ⟨rfl, rfl, rfl⟩

theorem markedRow_of_ne {now : Time.Instant} {id : Int} {r : Row} (h : r.user.id ≠ id) :
    markedRow now id r = r := by
  unfold markedRow
  rw [beq_false_of_ne h, Bool.false_and]
  rfl

theorem softDelete_eq (m : Memory) (now : Time.Instant) (id : Int) :
    (m.softDelete now id).2 = { m with rows := m.rows.map (markedRow now id) } ∨
      (m.softDelete now id).2 = m := by
  unfold softDelete
  split
  · exact Or.inl rfl
  · exact Or.inr rfl

theorem softDelete_of_false {m : Memory} {now : Time.Instant} {id : Int}
    (h : (m.softDelete now id).1 = false) : (m.softDelete now id).2 = m := by
  unfold softDelete at h ⊢
  split
  · rename_i ha
    rw [if_pos ha] at h
    cases h
  · rfl

theorem Numbered.softDelete {m : Memory} (h : m.Numbered) (now : Time.Instant) (id : Int) :
    (m.softDelete now id).2.Numbered := by
  rcases softDelete_eq m now id with he | he
  · rw [he]
    refine ⟨List.pairwise_map.2 (h.sorted.imp fun {r t} hrt => ?_), fun r hr => ?_⟩
    · rw [(markedRow_user now id r).1, (markedRow_user now id t).1]
      exact hrt
    · obtain ⟨t, ht, rfl⟩ := List.mem_map.1 hr
      rw [(markedRow_user now id t).1]
      exact h.le_last t ht
  · rw [he]
    exact h

/-- A row stays when an account is deleted, with the same id, email and role. -/
theorem mem_softDelete {m : Memory} {r : Row} (hr : r ∈ m.rows) (now : Time.Instant) (id : Int) :
    ∃ t ∈ (m.softDelete now id).2.rows, t.user.id = r.user.id ∧ t.user.email = r.user.email ∧
      t.user.role = r.user.role := by
  rcases softDelete_eq m now id with he | he
  · rw [he]
    exact ⟨_, List.mem_map_of_mem hr, markedRow_user now id r⟩
  · rw [he]
    exact ⟨r, hr, rfl, rfl, rfl⟩

/-- Who is not deleted stays. -/
theorem mem_liveRows_softDelete {m : Memory} {r : Row} (hr : r ∈ m.liveRows) {now : Time.Instant}
    {id : Int} (hid : r.user.id ≠ id) : r ∈ (m.softDelete now id).2.liveRows := by
  rw [mem_liveRows] at hr ⊢
  rcases softDelete_eq m now id with he | he
  · rw [he]
    exact ⟨List.mem_map.2 ⟨r, hr.1, markedRow_of_ne hid⟩, hr.2⟩
  · rw [he]
    exact hr

theorem roles_createUser (m : Memory) (now : Time.Instant) (u : NewUser) :
    (m.createUser now u).2.roles = m.roles := by
  unfold createUser
  split <;> rfl

theorem roles_softDelete (m : Memory) (now : Time.Instant) (id : Int) :
    (m.softDelete now id).2.roles = m.roles := by
  unfold softDelete
  split <;> rfl

/-- Who is not deleted stays, whatever is asked. -/
theorem mem_liveRows_answer {m : Memory} {r : Row} (hr : r ∈ m.liveRows) {now : Time.Instant}
    {q : Request} (hq : q ≠ .softDelete r.user.id) : r ∈ (m.answer now q).2.liveRows := by
  by_cases hs : SparesAccounts q
  · rw [(hs.same m now).liveRows_eq]
    exact hr
  · cases q with
    | createUser u =>
      rw [mem_liveRows] at hr ⊢
      exact ⟨mem_createUser hr.1 now u, hr.2⟩
    | softDelete id => exact mem_liveRows_softDelete hr fun hid => hq (by rw [hid])
    | _ => exact absurd trivial hs

/-- What holds of all emails is kept where it holds of that of every new account. -/
theorem emails_answer {m : Memory} {P : String → Prop} (h : ∀ r ∈ m.rows, P r.user.email)
    {now : Time.Instant} {q : Request} (hq : ∀ u, q = .createUser u → P u.email) :
    ∀ r ∈ (m.answer now q).2.rows, P r.user.email := by
  by_cases hs : SparesAccounts q
  · rw [(hs.same m now).rows]
    exact h
  · cases q with
    | createUser u =>
      intro r hr
      change r ∈ (m.createUser now u).2.rows at hr
      unfold createUser at hr
      split at hr
      · exact h r hr
      · rcases List.mem_append.1 hr with hr | hr
        · exact h r hr
        · rw [List.mem_singleton.1 hr]
          exact hq u rfl
    | softDelete id =>
      intro r hr
      change r ∈ (m.softDelete now id).2.rows at hr
      rcases softDelete_eq m now id with he | he
      · rw [he] at hr
        obtain ⟨t, ht, rfl⟩ := List.mem_map.1 hr
        rw [(markedRow_user now id t).2.1]
        exact h t ht
      · rw [he] at hr
        exact h r hr
    | _ => exact absurd trivial hs

end SignIn.Store.Memory
