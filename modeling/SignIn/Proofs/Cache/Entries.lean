-- What the cache keeps of its entries: every question leaves the entries of
-- all other keys as they are, and only `set` puts one in.
import SignIn.Cache.Memory

namespace SignIn.Cache

/-- The key that a question is about. -/
def Request.key : Request → String
  | .set key _ _ | .get key | .delete key | .timeLeft key => key

namespace Memory

theorem find?_erase (m : Memory) (key k : String) :
    (m.erase key).find? k = if k = key then none else m.find? k := by
  unfold find? erase
  induction m.entries with
  | nil => simp
  | cons e es ih =>
    obtain ⟨l, x⟩ := e
    by_cases hl : l = key
    · subst hl
      rw [List.filter_cons_of_neg (by simp), ih, List.lookup_cons]
      by_cases hk : k = l
      · rw [if_pos hk, if_pos hk]
      · rw [if_neg hk, if_neg hk, beq_false_of_ne hk]
    · rw [List.filter_cons_of_pos (by simpa using hl), List.lookup_cons, List.lookup_cons, ih]
      by_cases hk : k = l
      · subst hk
        simp only [beq_self_eq_true, hl, if_false]
      · rw [beq_false_of_ne hk]

theorem find?_put (m : Memory) (key k : String) (e : Entry) :
    (m.put key e).find? k = if k = key then some e else m.find? k := by
  have hput : (m.put key e).find? k = (if k == key then some e else (m.erase key).find? k) := by
    unfold put find?
    rw [List.lookup_cons]
    cases k == key <;> rfl
  rw [hput, find?_erase]
  by_cases hk : k = key
  · rw [hk, beq_self_eq_true, if_pos rfl, if_pos rfl]
  · rw [if_neg hk, if_neg hk, beq_false_of_ne hk, if_neg (by decide)]

theorem find?_of_find?_erase {m : Memory} {key k : String} {e : Entry}
    (h : (m.erase key).find? k = some e) : m.find? k = some e := by
  rw [find?_erase] at h
  split at h
  · cases h
  · exact h

theorem find?_of_find?_live {m : Memory} {now : Nat} {key k : String} {e : Entry}
    (h : (m.live now key).2.find? k = some e) : m.find? k = some e := by
  unfold live at h
  split at h
  · exact h
  · split at h
    · exact h
    · exact find?_of_find?_erase h

theorem find?_of_live {m : Memory} {now : Nat} {key : String} {e : Entry}
    (h : (m.live now key).1 = some e) : m.find? key = some e ∧ now < e.expiresAt := by
  unfold live at h
  split at h
  · cases h
  · rename_i found
    split at h
    · cases h
      exact ⟨found, ‹_›⟩
    · cases h

theorem live_of_find? {m : Memory} {now : Nat} {key : String} {e : Entry}
    (h : m.find? key = some e) (he : now < e.expiresAt) : m.live now key = (some e, m) := by
  unfold live
  rw [h]
  simp only [he, if_true]

theorem find?_live_of_ne {m : Memory} {now : Nat} {key k : String} (h : k ≠ key) :
    (m.live now key).2.find? k = m.find? k := by
  unfold live
  split
  · rfl
  · split
    · rfl
    · rw [find?_erase, if_neg h]

/-- A value that is got is that of an entry, which is still there. -/
theorem find?_of_get {m m' : Memory} {now : Nat} {key value : String}
    (h : m.get now key = (some value, m')) :
    ∃ e, m'.find? key = some e ∧ e.value = value := by
  obtain ⟨e, he, hvalue⟩ := Option.map_eq_some_iff.1 (congrArg Prod.fst h)
  obtain ⟨hfound, hover⟩ := find?_of_live he
  have hm : (m.live now key).2 = m' := congrArg Prod.snd h
  rw [live_of_find? hfound hover] at hm
  exact ⟨e, hm ▸ hfound, hvalue⟩

/-- A value is there exactly if an entry is that is not over. -/
theorem get_isSome_iff {m : Memory} {now : Nat} {key : String} :
    (m.get now key).1.isSome = true ↔ ∃ e, m.find? key = some e ∧ now < e.expiresAt := by
  unfold get
  dsimp only
  rw [Option.isSome_map, Option.isSome_iff_exists]
  refine ⟨fun ⟨e, he⟩ => ⟨e, find?_of_live he⟩, fun ⟨e, he, hover⟩ => ⟨e, ?_⟩⟩
  rw [live_of_find? he hover]

/-- A question that sets no entry of a key leaves none there that was not there before. -/
theorem find?_of_answer {m : Memory} {now : Nat} {q : Request} {k : String} {e : Entry}
    (hq : ∀ value lifetime, q ≠ .set k value lifetime) (h : (m.answer now q).2.find? k = some e) :
    m.find? k = some e := by
  cases q with
  | set key value lifetime =>
    unfold answer set at h
    rw [find?_put] at h
    split at h
    · rename_i hk
      exact absurd (by rw [hk]) (hq value lifetime)
    · exact h
  | get key => exact find?_of_find?_live h
  | delete key => exact find?_of_find?_live (find?_of_find?_erase h)
  | timeLeft key => exact find?_of_find?_live h

/-- An entry that is not over stays until it is replaced or removed. -/
theorem find?_answer_of_live {m : Memory} {now : Nat} {q : Request} {k : String} {e : Entry}
    (h : m.find? k = some e) (he : now < e.expiresAt)
    (hset : ∀ value lifetime, q ≠ .set k value lifetime) (hdelete : q ≠ .delete k) :
    (m.answer now q).2.find? k = some e := by
  have hlive : ∀ key, (m.live now key).2.find? k = some e := by
    intro key
    by_cases hk : k = key
    · subst hk
      rw [live_of_find? h he]
      exact h
    · rw [find?_live_of_ne hk]
      exact h
  cases q with
  | set key value lifetime =>
    unfold answer set
    rw [find?_put, if_neg fun hk => hset value lifetime (by rw [hk])]
    exact h
  | get key => exact hlive key
  | delete key =>
    unfold answer delete
    rw [find?_erase, if_neg fun hk => hdelete (by rw [hk])]
    exact hlive key
  | timeLeft key => exact hlive key

theorem find?_delete (m : Memory) (now : Nat) (key : String) :
    (m.delete now key).2.find? key = none := by
  unfold delete
  rw [find?_erase, if_pos rfl]

/-- A question leaves the entries of all other keys as they are. -/
theorem find?_answer_of_ne {q : Request} {k : String} (h : k ≠ q.key) (m : Memory) (now : Nat) :
    (m.answer now q).2.find? k = m.find? k := by
  cases q with
  | set key value lifetime =>
    have h : k ≠ key := h
    unfold answer set
    rw [find?_put, if_neg h]
  | delete key =>
    have h : k ≠ key := h
    unfold answer delete
    rw [find?_erase, if_neg h]
    exact find?_live_of_ne h
  | get key | timeLeft key => exact find?_live_of_ne h

/-! ## Entries whose time is over -/

/-- Entries have been dropped whose time was over, and no others. -/
def Sheds (m : Memory) (now : Nat) (m' : Memory) : Prop :=
  ∀ key, m'.find? key = m.find? key ∨
    m'.find? key = none ∧ ∃ e, m.find? key = some e ∧ e.expiresAt ≤ now

variable {m m' : Memory} {now : Nat} {key : String}

theorem Sheds.refl (m : Memory) (now : Nat) : m.Sheds now m := fun _ => Or.inl rfl

theorem Sheds.mono (h : m.Sheds now m') {later : Nat} (hle : now ≤ later) : m.Sheds later m' := by
  intro key
  rcases h key with he | ⟨hn, e, he, hover⟩
  · exact Or.inl he
  · exact Or.inr ⟨hn, e, he, Nat.le_trans hover hle⟩

/-- An entry may be dropped once its time is over. -/
theorem Sheds.erase (h : m.Sheds now m')
    (hover : ∀ e, m'.find? key = some e → e.expiresAt ≤ now) : m.Sheds now (m'.erase key) := by
  intro k
  rw [find?_erase]
  split
  · rename_i hk
    subst hk
    rcases h k with he | ⟨_, hgone⟩
    · rw [← he]
      cases hf : m'.find? k with
      | none => exact Or.inl rfl
      | some e => exact Or.inr ⟨rfl, e, rfl, hover e hf⟩
    · exact Or.inr ⟨rfl, hgone⟩
  · exact h k

theorem Sheds.live (h : m.Sheds now m') (key : String) : m.Sheds now (m'.live now key).2 := by
  unfold Memory.live
  split
  · exact h
  · rename_i e he
    split
    · exact h
    · rename_i hover
      refine h.erase fun e' he' => ?_
      rw [he] at he'
      cases he'
      exact Nat.le_of_not_lt hover

/-- Where there was nothing to remove, only an entry can be gone whose time was over. -/
theorem Sheds.delete (h : m.Sheds now m') (hd : (m'.delete now key).1 = false) :
    m.Sheds now (m'.delete now key).2 := by
  refine (h.live key).erase fun e he => Nat.le_of_not_lt fun hlive => ?_
  have hsome : (m'.live now key).1 = some e := by
    rw [live_of_find? (find?_of_find?_live he) hlive]
  have hnone : (m'.live now key).1.isSome = false := hd
  rw [hsome] at hnone
  cases hnone

end Memory

end SignIn.Cache
