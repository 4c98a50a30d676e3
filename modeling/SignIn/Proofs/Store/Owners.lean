-- Accounts over time: who is there, who is gone for good, and whose email and
-- phone they are. An account comes into being in one way only.
import SignIn.Proofs.Store.Accounts

namespace SignIn.Store.Memory

variable {m : Memory} {now : Time.Instant} {q : Request} {u : Int}

/-- The user has an account that is not deleted. -/
def HasUser (m : Memory) (u : Int) : Prop := ∃ r ∈ m.liveRows, r.user.id = u

instance (m : Memory) (u : Int) : Decidable (m.HasUser u) :=
  inferInstanceAs (Decidable (∃ r ∈ m.liveRows, r.user.id = u))

theorem HasUser.of_findUser {user : User} (h : m.findUser u = some user) :
    m.HasUser u ∧ user.id = u := by
  obtain ⟨r, hr, rfl, hid⟩ := mem_of_findUser h
  exact ⟨⟨r, hr, hid⟩, hid⟩

theorem findUser_of_not_hasUser (h : ¬ m.HasUser u) : m.findUser u = none := by
  cases hf : m.findUser u with
  | none => rfl
  | some user => exact absurd (HasUser.of_findUser hf).1 h

/-! ## Every question -/

/-- An account that is there was there before, or it is the new one. -/
theorem mem_liveRows_of_answer {r : Row} (h : r ∈ (m.answer now q).2.liveRows) :
    r ∈ m.liveRows ∨ ∃ new, q = .createUser new ∧ m.isTaken new.email new.phone = false ∧
      r = m.newRow now new := by
  by_cases hs : SparesAccounts q
  · rw [(hs.same m now).liveRows_eq] at h
    exact Or.inl h
  · cases q with
    | createUser new =>
      change r ∈ (m.createUser now new).2.liveRows at h
      by_cases ht : m.isTaken new.email new.phone = true
      · unfold createUser at h
        rw [if_pos ht] at h
        exact Or.inl h
      · have ht := Bool.eq_false_iff.2 ht
        rw [createUser_of_free ht, mem_liveRows] at h
        rcases List.mem_append.1 h.1 with hr | hr
        · exact Or.inl (mem_liveRows.2 ⟨hr, h.2⟩)
        · exact Or.inr ⟨new, rfl, ht, List.mem_singleton.1 hr⟩
    | softDelete id =>
      change r ∈ (m.softDelete now id).2.liveRows at h
      rcases softDelete_eq m now id with he | he
      · rw [he, mem_liveRows] at h
        obtain ⟨t, ht, rfl⟩ := List.mem_map.1 h.1
        refine Or.inl (mem_liveRows.2 ?_)
        -- A row with a mark of deletion is not live.
        by_cases hm : (t.user.id == id && t.isLive) = true
        · unfold markedRow at h
          rw [if_pos hm] at h
          exact absurd h.2 Bool.false_ne_true
        · unfold markedRow at h ⊢
          rw [if_neg hm] at h ⊢
          exact ⟨ht, h.2⟩
      · rw [he] at h
        exact Or.inl h
    | _ => exact absurd trivial hs

theorem Numbered.answer (h : m.Numbered) (now : Time.Instant) (q : Request) :
    (m.answer now q).2.Numbered := by
  by_cases hs : SparesAccounts q
  · exact (hs.same m now).numbered h
  · cases q with
    | createUser new => exact h.createUser now new
    | softDelete id => exact h.softDelete now id
    | _ => exact absurd trivial hs

/-- No id is taken back. -/
theorem lastUserId_le_answer (m : Memory) (now : Time.Instant) (q : Request) :
    m.lastUserId ≤ (m.answer now q).2.lastUserId := by
  by_cases hs : SparesAccounts q
  · exact Int.le_of_eq (hs.same m now).last.symm
  · cases q with
    | createUser new =>
      change m.lastUserId ≤ (m.createUser now new).2.lastUserId
      unfold createUser
      split
      · exact Int.le_refl _
      · exact Int.le_of_lt (Int.lt_succ _)
    | softDelete id =>
      change m.lastUserId ≤ (m.softDelete now id).2.lastUserId
      unfold softDelete
      split <;> exact Int.le_refl _
    | _ => exact absurd trivial hs

/-! ## Accounts that are gone -/

/-- The id has been given, and its account is not there. -/
structure Gone (m : Memory) (u : Int) : Prop where
  given : u ≤ m.lastUserId
  absent : ¬ m.HasUser u

/-- Who is gone stays gone. -/
theorem Gone.answer (h : m.Gone u) (now : Time.Instant) (q : Request) :
    (m.answer now q).2.Gone u := by
  refine ⟨Int.le_trans h.given (lastUserId_le_answer m now q), fun ⟨r, hr, hid⟩ => ?_⟩
  rcases mem_liveRows_of_answer hr with hr | ⟨new, _, _, rfl⟩
  · exact h.absent ⟨r, hr, hid⟩
  · have hnew : m.lastUserId + 1 = u := hid
    have := h.given
    omega

/-- A deletion leaves no account of the id. -/
theorem not_hasUser_softDelete (m : Memory) (now : Time.Instant) (u : Int) :
    ¬ (m.softDelete now u).2.HasUser u := by
  rintro ⟨r, hr, hid⟩
  unfold softDelete at hr
  by_cases ha : (m.liveRows.any fun r => r.user.id == u) = true
  · rw [if_pos ha, mem_liveRows] at hr
    obtain ⟨t, ht, rfl⟩ := List.mem_map.1 hr.1
    by_cases hm : (t.user.id == u && t.isLive) = true
    · rw [if_pos hm] at hr
      exact absurd hr.2 Bool.false_ne_true
    · rw [if_neg hm] at hr hid
      rw [hid, hr.2, beq_self_eq_true] at hm
      exact hm rfl
  · rw [if_neg ha] at hr
    exact ha (List.any_eq_true.2 ⟨r, hr, by simp [hid]⟩)

/-! ## Emails and phones -/

/-- No two accounts that are there share an email or a phone. -/
def Apart (m : Memory) : Prop :=
  ∀ r ∈ m.liveRows, ∀ t ∈ m.liveRows,
    r.user.email = t.user.email ∨ r.user.phone = t.user.phone → r = t

theorem apart_empty (roles : List (Int × List String)) (defaultRole : Option Int) :
    (empty roles defaultRole).Apart :=
  fun _ hr => absurd hr List.not_mem_nil

theorem isTaken_of_mem {r : Row} (hr : r ∈ m.liveRows) {email phone : String}
    (h : r.user.email = email ∨ r.user.phone = phone) : m.isTaken email phone = true :=
  List.any_eq_true.2 ⟨r, hr, by simpa using h⟩

/-- Only what is not taken can be registered. -/
theorem Apart.answer (h : m.Apart) (now : Time.Instant) (q : Request) :
    (m.answer now q).2.Apart := by
  have hfree : ∀ (r : Row) (new : NewUser), r ∈ m.liveRows →
      m.isTaken new.email new.phone = false →
      ¬ (r.user.email = new.email ∨ r.user.phone = new.phone) := by
    intro r new hr hn hsame
    rw [isTaken_of_mem hr hsame] at hn
    cases hn
  intro r hr t ht hsame
  rcases mem_liveRows_of_answer hr with hr | ⟨new, rfl, hn, rfl⟩
  · rcases mem_liveRows_of_answer ht with ht | ⟨new, _, hn, rfl⟩
    · exact h r hr t ht hsame
    · exact absurd hsame (hfree r new hr hn)
  · rcases mem_liveRows_of_answer ht with ht | ⟨new', he, _, rfl⟩
    · exact absurd (hsame.imp Eq.symm Eq.symm) (hfree t new ht hn)
    · cases he
      rfl

/-- The owner of a phone is found by it. -/
theorem Apart.findByPhone_of_mem (h : m.Apart) {r : Row} (hr : r ∈ m.liveRows) :
    m.findByPhone r.user.phone = some r.user := by
  unfold findByPhone
  cases hf : m.liveRows.find? fun t => t.user.phone == r.user.phone with
  | none => simpa using List.find?_eq_none.1 hf r hr
  | some t =>
    have hphone : t.user.phone = r.user.phone := by simpa using List.find?_some hf
    rw [h t (List.mem_of_find?_eq_some hf) r hr (Or.inr hphone), Option.map_some]

/-- Who is found by a phone has it. -/
theorem owns_of_findByPhone {phone : String} {user : User} (h : m.findByPhone phone = some user) :
    ∃ r ∈ m.liveRows, r.user = user ∧ user.phone = phone := by
  unfold findByPhone at h
  obtain ⟨r, hr, rfl⟩ := Option.map_eq_some_iff.1 h
  exact ⟨r, List.mem_of_find?_eq_some hr, rfl, by simpa using List.find?_some hr⟩

theorem emailExists_iff {email : String} :
    m.emailExists email = true ↔ ∃ r ∈ m.liveRows, r.user.email = email := by
  simp [emailExists]

end SignIn.Store.Memory
