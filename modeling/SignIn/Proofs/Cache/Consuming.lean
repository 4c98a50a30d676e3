-- Entries of the cache that are stored and removed while operations take
-- turns: what is removed was there at the start or has been stored since.
import SignIn.Proofs.Pool
import SignIn.Proofs.Cache.Entries

namespace SignIn

open World (Turn)

/-! ## What is stored and removed -/

/-- Whether an entry of the key has been stored. -/
def Said.stores (key : String) : Said → Bool
  | ⟨.cache (.set k _ _), a⟩ => k == key && Except.isOk (a : Except CacheError Unit)
  | _ => false

/-- Whether an entry of the key has been removed that was there. -/
def Said.removes (key : String) : Said → Bool
  | ⟨.cache (.delete k), a⟩ =>
    k == key && match (a : Except CacheError Bool) with
      | .ok removed => removed
      | .error _ => false
  | _ => false

theorem Said.stores_eq_true {key : String} {x : Said} (h : x.stores key = true) :
    ∃ value lifetime, x = ⟨.cache (.set key value lifetime), .ok ()⟩ := by
  unfold Said.stores at h
  split at h
  · rename_i k value lifetime a
    obtain ⟨hk, ha⟩ := Bool.and_eq_true_iff.1 h
    obtain rfl : k = key := eq_of_beq hk
    cases a with
    | ok a => exact ⟨value, lifetime, rfl⟩
    | error e => cases ha
  · cases h

theorem Said.removes_eq_true {key : String} {x : Said} (h : x.removes key = true) :
    x = ⟨.cache (.delete key), .ok true⟩ := by
  unfold Said.removes at h
  split at h
  · rename_i k a
    obtain ⟨hk, ha⟩ := Bool.and_eq_true_iff.1 h
    obtain rfl : k = key := eq_of_beq hk
    cases a with
    | ok removed =>
      obtain rfl : removed = true := ha
      rfl
    | error e => cases ha
  · cases h

namespace Cache.Memory

/-- The entries of a key: one or none. -/
def count (m : Memory) (key : String) : Nat := (m.find? key).isSome.toNat

theorem count_le_of_find? {m m' : Memory} {key : String}
    (h : ∀ e, m'.find? key = some e → m.find? key = some e) : m'.count key ≤ m.count key := by
  unfold count
  cases he : m'.find? key with
  | none => exact Nat.zero_le _
  | some e => exact Nat.le_of_eq (by rw [h e he])

theorem count_le_one (m : Memory) (key : String) : m.count key ≤ 1 := Bool.toNat_le _

/-- Removing an entry takes one that is there, and only storing one puts one in. -/
theorem removes_le_stores (m : Memory) (now : Nat) (q : Request) (key : String) :
    (Said.removes key ⟨.cache q, .ok (m.answer now q).1⟩).toNat + (m.answer now q).2.count key ≤
      m.count key + (Said.stores key ⟨.cache q, .ok (m.answer now q).1⟩).toNat := by
  by_cases hset : ∃ value lifetime, q = .set key value lifetime
  · obtain ⟨value, lifetime, rfl⟩ := hset
    have hone := count_le_one (m.answer now (.set key value lifetime)).2 key
    have hstores : Said.stores key ⟨.cache (.set key value lifetime), .ok ()⟩ = true := by
      simp [Said.stores, Except.isOk, Except.toBool]
    change 0 + _ ≤ _ + (Said.stores key ⟨.cache (.set key value lifetime), .ok ()⟩).toNat
    rw [hstores, Bool.toNat_true]
    omega
  · have hle : (m.answer now q).2.count key ≤ m.count key :=
      count_le_of_find? fun e he => find?_of_answer (fun v d hq => hset ⟨v, d, hq⟩) he
    cases hr : Said.removes key ⟨.cache q, .ok (m.answer now q).1⟩ with
    | false =>
      rw [Bool.toNat_false]
      omega
    | true =>
      -- The entry was there, and is gone.
      have hx := Said.removes_eq_true hr
      obtain rfl : q = .delete key := by
        injection congrArg Sigma.fst hx
      have hanswer : (m.delete now key).1 = true := by
        injection hx with _ ha
        exact Except.ok.inj ha
      obtain ⟨e, he⟩ := Option.isSome_iff_exists.1 hanswer
      have hbefore : m.count key = 1 := by
        unfold count
        rw [(find?_of_live he).1]
        rfl
      have hafter : (m.answer now (.delete key)).2.count key = 0 := by
        unfold count
        change ((m.delete now key).2.find? key).isSome.toNat = 0
        rw [find?_delete]
        rfl
      rw [hbefore, hafter, Bool.toNat_true]
      omega

end Cache.Memory

/-! ## In a world -/

variable {mayFail : Prop} {w w' : World} {q : Ask} {a : q.Answer} {key : String} {e : Cache.Entry}

/-- Only the cache's own questions touch the cache. -/
theorem World.Turn.cache_eq (h : Turn mayFail w q a w') (hq : ∀ r, q ≠ .cache r) :
    w'.cache = w.cache := by
  cases q with
  | cache r => exact absurd rfl (hq r)
  | store q =>
    rcases h.store_cases with ⟨_, hs, _⟩ | ⟨_, hc, _⟩
    · exact hs.cache
    · exact hc
  | clock | deliver | freshId | freshCode | freshSalt =>
    refine (h.aside ?_).cache
    exact trivial

/-- A question that stores no entry of a key leaves none there that was not there before. -/
theorem World.Turn.find?_of_find? (h : Turn mayFail w q a w')
    (hset : ∀ value lifetime, q ≠ .cache (.set key value lifetime))
    (he : w'.cache.find? key = some e) : w.cache.find? key = some e := by
  by_cases hq : ∃ r, q = .cache r
  · obtain ⟨r, rfl⟩ := hq
    rcases h.cache_cases with ⟨_, hs, _⟩ | ⟨b, _, hb, _⟩
    · rw [hs.cache] at he
      exact he
    · have hc : (w.cache.answer w.ticks r).2 = w'.cache := congrArg Prod.snd hb
      rw [← hc] at he
      exact Cache.Memory.find?_of_answer (fun v d hr => hset v d (congrArg Ask.cache hr)) he
  · rw [h.cache_eq fun r hr => hq ⟨r, hr⟩] at he
    exact he

/-- Where a key has no entry, only a question that stores one puts it in. -/
theorem World.Turn.find?_of_none (h : Turn mayFail w q a w')
    (hset : ∀ value lifetime, q ≠ .cache (.set key value lifetime))
    (hnone : w.cache.find? key = none) : w'.cache.find? key = none := by
  refine Option.eq_none_iff_forall_ne_some.2 fun e he => ?_
  rw [h.find?_of_find? hset he] at hnone
  cases hnone

/-- An entry that is not over stays until it is replaced or removed. -/
theorem World.Turn.find?_of_live (h : Turn mayFail w q a w')
    (hset : ∀ value lifetime, q ≠ .cache (.set key value lifetime))
    (hdelete : q ≠ .cache (.delete key)) (hover : w.ticks < e.expiresAt)
    (he : w.cache.find? key = some e) : w'.cache.find? key = some e := by
  by_cases hq : ∃ r, q = .cache r
  · obtain ⟨r, rfl⟩ := hq
    rcases h.cache_cases with ⟨_, hs, _⟩ | ⟨b, _, hb, _⟩
    · rw [hs.cache]
      exact he
    · have hc : (w.cache.answer w.ticks r).2 = w'.cache := congrArg Prod.snd hb
      rw [← hc]
      exact Cache.Memory.find?_answer_of_live he hover
        (fun v d hr => hset v d (congrArg Ask.cache hr)) fun hr => hdelete (congrArg Ask.cache hr)
  · rw [h.cache_eq fun r hr => hq ⟨r, hr⟩]
    exact he

/-- An entry that is removed is gone. -/
theorem World.Turn.find?_of_delete {b : Bool}
    (h : Turn mayFail w (.cache (.delete key)) (.ok b) w') : w'.cache.find? key = none := by
  have hc : (w.cache.delete w.ticks key).2 = w'.cache := congrArg Prod.snd h.cache_ok.1
  rw [← hc]
  exact Cache.Memory.find?_delete _ _ _

/-- Removing an entry takes one that is there, whatever fails. -/
theorem World.Turn.removes_le_stores (h : Turn mayFail w q a w') (key : String) :
    (Said.removes key ⟨q, a⟩).toNat + w'.cache.count key ≤
      w.cache.count key + (Said.stores key ⟨q, a⟩).toNat := by
  have hsame : Said.removes key ⟨q, a⟩ = false → w'.cache = w.cache →
      (Said.removes key ⟨q, a⟩).toNat + w'.cache.count key ≤
        w.cache.count key + (Said.stores key ⟨q, a⟩).toNat := by
    intro hr hc
    rw [hr, hc, Bool.toNat_false]
    omega
  cases q with
  | cache q =>
    rcases h.cache_cases with ⟨⟨e, rfl⟩, hs, _⟩ | ⟨b, rfl, hb, _⟩
    · refine hsame ?_ hs.cache
      cases q <;> simp [Said.removes]
    · have hm := w.cache.removes_le_stores w.ticks q key
      rw [hb] at hm
      exact hm
  | store | clock | deliver | freshId | freshCode | freshSalt =>
    exact hsame rfl (h.cache_eq nofun)

namespace Pool

variable {α : Type} {mayFail : Prop} {p : Pool α} {w : World} {ops : List (Program α)}

/-- Whatever fails, the entries of a key that are removed or still there were there at the start or
have been stored since. -/
theorem Runs.removals_le (h : Runs mayFail (start w ops) p) (key : String) :
    p.log.countP (·.said.removes key) + p.world.cache.count key ≤
      w.cache.count key + p.log.countP (·.said.stores key) := by
  refine h.keeps (I := fun p => p.log.countP (·.said.removes key) + p.world.cache.count key ≤
    w.cache.count key + p.log.countP (·.said.stores key)) (fun p p' hp hs => ?_) ?_
  · cases hs with
    | pass => exact hp
    | @ask i q next a w' _ ht =>
      have hle := ht.removes_le_stores key
      rw [List.countP_cons, List.countP_cons]
      cases hr : Said.removes key ⟨q, a⟩ <;> cases hst : Said.stores key ⟨q, a⟩ <;>
        simp only [hr, hst, Bool.toNat_true, Bool.toNat_false, if_true, if_false,
          Bool.false_eq_true] at hle ⊢ <;> omega
  · simp [start]

/-! ## Counting operations by what they have said -/

theorem countP_saidBy (p : Pool α) (f : Said → Bool) (i : Nat) :
    (p.saidBy i).countP f = ((p.log.filter (f ·.said)).map Exchange.op).count i := by
  unfold saidBy
  rw [List.countP_map, List.count, List.countP_map, List.countP_filter, List.countP_filter]
  refine List.countP_congr fun x _ => ?_
  simp [and_comm]

/-- Operations that have each said a thing are no more than the times that it has been said. -/
theorem length_le_countP {f : Said → Bool} {is : List Nat} (hn : is.Nodup)
    (h : ∀ i ∈ is, ∃ x ∈ p.saidBy i, f x = true) : is.length ≤ p.log.countP (f ·.said) := by
  have hsub : is ⊆ (p.log.filter (f ·.said)).map Exchange.op := by
    intro i hi
    obtain ⟨x, hx, hf⟩ := h i hi
    obtain ⟨n, hm⟩ := mem_saidBy.1 hx
    exact List.mem_map.2 ⟨_, List.mem_filter.2 ⟨hm, hf⟩, rfl⟩
  have hle := hn.length_le_of_subset hsub
  rw [List.length_map] at hle
  rw [List.countP_eq_length_filter]
  exact hle

/-- What each operation says once at most has been said no more often than there are operations that
have said it. -/
theorem countP_le_length {f : Said → Bool} {is : List Nat}
    (hone : ∀ i, (p.saidBy i).countP f ≤ 1) (h : ∀ x ∈ p.log, f x.said = true → x.op ∈ is) :
    p.log.countP (f ·.said) ≤ is.length := by
  have hnodup : ((p.log.filter (f ·.said)).map Exchange.op).Nodup := by
    refine List.nodup_iff_count.2 fun i => ?_
    rw [← countP_saidBy]
    exact hone i
  have hsub : (p.log.filter (f ·.said)).map Exchange.op ⊆ is := by
    intro i hi
    obtain ⟨x, hx, rfl⟩ := List.mem_map.1 hi
    obtain ⟨hm, hf⟩ := List.mem_filter.1 hx
    exact h x hm hf
  have hle := hnodup.length_le_of_subset hsub
  rw [List.length_map] at hle
  rw [List.countP_eq_length_filter]
  exact hle

/-! ## What each operation has said -/

variable {asks : List Said → Ask → Prop} {ends : List Said → α → Prop} {i : Nat}

/-- What holds of nothing said, and is kept by whatever an operation may ask, holds of what it has
said. -/
theorem Runs.saidBy_keeps {J : List Said → Prop} {d : Program α}
    (h : Runs mayFail (start w ops) p) (hd : ops[i]? = some d)
    (ht : Dialog.Holds Dialog.Noting asks ends [] d)
    (hJ : ∀ said q a, J said → asks said q → J (⟨q, a⟩ :: said)) (h₀ : J []) :
    J (p.saidBy i) := by
  refine (h.keeps (I := fun p => IsTalking asks ends i p ∧ J (p.saidBy i)) (fun p p' hp hs => ?_)
    ⟨⟨d, hd, ht⟩, h₀⟩).2
  refine ⟨hs.isTalking hp.1, ?_⟩
  cases hs with
  | pass => exact hp.2
  | @ask j q next a w' hj _ =>
    by_cases hij : j = i
    · subst hij
      rw [saidBy_cons_self]
      exact hJ _ q a hp.2 (hp.1.of_ask hj)
    · rw [saidBy_cons_of_ne hij]
      exact hp.2

/-- The same for an operation that ensures what it asks. -/
theorem Runs.saidBy_keeps_of_ensures {β : Type} {q : Pool (Except AuthError β)}
    {ops : List (Program (Except AuthError β))} {op : Operation β}
    {ends : List Said → Except AuthError β → Prop} {J : List Said → Prop}
    (h : Runs mayFail (start w ops) q) (hd : ops[i]? = some op.run)
    (he : Dialog.Ensures Dialog.Noting asks [] op (fun a said => ends said (.ok a))
      fun e said => ends said (.error e))
    (hJ : ∀ said q a, J said → asks said q → J (⟨q, a⟩ :: said)) (h₀ : J []) : J (q.saidBy i) :=
  h.saidBy_keeps hd he.holds_run hJ h₀

/-- Whatever has been said was said by one of the operations. -/
theorem Runs.op_lt (h : Runs mayFail (start w ops) p) {x : Exchange} (hx : x ∈ p.log) :
    x.op < ops.length := by
  refine (h.keeps (I := fun p => p.ops.length = ops.length ∧ ∀ x ∈ p.log, x.op < ops.length)
    (fun p p' hp hs => ?_) ⟨rfl, fun x hx => nomatch hx⟩).2 x hx
  cases hs with
  | pass => exact hp
  | @ask j q next a w' hj _ =>
    refine ⟨by rw [List.length_set]; exact hp.1, fun x hx => ?_⟩
    rcases List.mem_cons.1 hx with rfl | hx
    · rw [← hp.1]
      exact (List.getElem?_eq_some_iff.1 hj).1
    · exact hp.2 x hx

end Pool

end SignIn
