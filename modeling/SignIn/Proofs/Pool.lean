-- Operations that run side by side in one world. Each goes on from one
-- question to the next; whose question is next is left open.
import SignIn.Proofs.Turns
import SignIn.Proofs.Store.Spending

namespace SignIn

/-- A question with its answer. -/
abbrev Said := (q : Ask) × q.Answer

/-- The account that was found, and under what id. -/
def Said.foundUser : Said → Option (Int × User)
  | ⟨.store (.findUser id), a⟩ =>
    match (a : Except StoreError (Option User)) with
    | .ok (some user) => some (id, user)
    | _ => none
  | _ => none

/-- Whether a call to the store or the cache has failed. -/
def Said.failed : Said → Bool
  | ⟨.store q, a⟩ => !(Except.isOk (a : Except StoreError q.Answer))
  | ⟨.cache q, a⟩ => !(Except.isOk (a : Except CacheError q.Answer))
  | _ => false

/-- The text of the token that was to be rotated, and whether it was. -/
def Said.rotation : Said → Option (String × Bool)
  | ⟨.store q, a⟩ => q.rotation a
  | _ => none

/-- The text of the token that was rotated. -/
def Said.rotates (x : Said) : Option String :=
  match x.rotation with
  | some (old, true) => some old
  | _ => none

theorem Said.rotates_eq_some {x : Said} {t : String} :
    x.rotates = some t ↔ x.rotation = some (t, true) := by
  unfold Said.rotates
  rcases x.rotation with _ | ⟨old, _ | _⟩ <;> simp

/-- The text of the refresh token that a question asks to store. -/
def Ask.mints : Ask → Option String
  | .store q => q.mints
  | _ => none

/-- Whether a question asks for a rotation. -/
def Ask.isRotation : Ask → Bool
  | .store (.rotateToken _ _ _ _) => true
  | _ => false

/-- Whether a question writes to the cache. -/
def Ask.isMark : Ask → Bool
  | .cache (.set _ _ _) => true
  | _ => false

/-- Something said in a pool: by which of the operations, and at what time of the clock that never
goes back. -/
structure Exchange where
  op : Nat
  ticks : Nat
  said : Said

/-- Operations under way in a world, and what they have said, latest first. -/
structure Pool (α : Type) where
  world : World
  ops : List (Program α)
  log : List Exchange

/-- A rotation takes an unrevoked record, and no other question makes one but one that stores. -/
theorem World.Turn.rotates_le_mints {mayFail : Prop} {w w' : World} {q : Ask} {a : q.Answer}
    (h : World.Turn mayFail w q a w') (t : String) :
    (Said.rotates ⟨q, a⟩).toList.count t + (w'.store.holdsUnrevoked t).toNat ≤
      (w.store.holdsUnrevoked t).toNat + q.mints.toList.count t := by
  have haside : IsAside q → Said.rotates ⟨q, a⟩ = none →
      (Said.rotates ⟨q, a⟩).toList.count t + (w'.store.holdsUnrevoked t).toNat ≤
        (w.store.holdsUnrevoked t).toNat + q.mints.toList.count t := by
    intro hq hr
    rw [hr, (h.aside hq).store]
    exact Nat.le_trans (Nat.le_of_eq (Nat.zero_add _)) (Nat.le_add_right _ _)
  cases q with
  | store q =>
    rcases h.store_cases with ⟨⟨e, rfl⟩, hs, _⟩ | ⟨ha, _⟩
    · have hr : Said.rotates ⟨.store q, .error e⟩ = none := by cases q <;> rfl
      rw [hr, hs.store]
      exact Nat.le_trans (Nat.le_of_eq (Nat.zero_add _)) (Nat.le_add_right _ _)
    · have hm := Store.Memory.rotates_le_mints w.store w.now q t
      rw [ha] at hm
      exact hm
  | cache q =>
    have hs : w'.store = w.store := by
      rcases h.cache_cases with ⟨_, hs, _⟩ | ⟨_, _, _, hs, _⟩
      · exact hs.store
      · exact hs
    rw [hs]
    exact Nat.le_of_eq (Nat.add_comm _ _)
  | clock | deliver | freshId | freshCode | freshSalt => exact haside trivial rfl

namespace Pool

open World (Turn)

variable {α : Type} {mayFail : Prop} {p p' p'' : Pool α} {i : Nat}

/-- Operations that are about to begin. -/
def start (w : World) (ops : List (Program α)) : Pool α := ⟨w, ops, []⟩

/-- What an operation has said. -/
def saidBy (p : Pool α) (i : Nat) : List Said := (p.log.filter (·.op == i)).map Exchange.said

/-- One operation asks its next question, or time passes. -/
inductive Step (mayFail : Prop) : Pool α → Pool α → Prop
  | ask {p : Pool α} {i : Nat} {q : Ask} {next : q.Answer → Program α} {a : q.Answer} {w : World}
    (hi : p.ops[i]? = some (.ask q next)) (ht : Turn mayFail p.world q a w) :
    Step mayFail p ⟨w, p.ops.set i (next a), ⟨i, p.world.ticks, ⟨q, a⟩⟩ :: p.log⟩
  | pass (p : Pool α) (wallNanos : Int) (tickNanos : Nat) :
    Step mayFail p { p with world := p.world.advance wallNanos tickNanos }

/-- What can become of a pool, with the operations taking turns in any order. -/
inductive Runs (mayFail : Prop) (p : Pool α) : Pool α → Prop
  | refl : Runs mayFail p p
  | step {p' p'' : Pool α} (h : Runs mayFail p p') (hs : Step mayFail p' p'') : Runs mayFail p p''

theorem Runs.trans (h : Runs mayFail p p') (h' : Runs mayFail p' p'') : Runs mayFail p p'' := by
  induction h' with
  | refl => exact h
  | step _ hs ih => exact ih.step hs

/-- What every step keeps holds after every run. -/
theorem Runs.keeps {I : Pool α → Prop} (h : Runs mayFail p p')
    (hI : ∀ p p', I p → Step mayFail p p' → I p') (hp : I p) : I p' := by
  induction h with
  | refl => exact hp
  | step _ hs ih => exact hI _ _ ih hs

/-! ## Turns without failures -/

/-- An operation asks its next question, if it is not over, and nothing fails that is not set to. -/
def turn (p : Pool α) (i : Nat) : Pool α :=
  match p.ops[i]? with
  | some (.ask q next) =>
    let (a, w) := p.world.answer false q
    ⟨w, p.ops.set i (next a), ⟨i, p.world.ticks, ⟨q, a⟩⟩ :: p.log⟩
  | _ => p

theorem runs_turn (p : Pool α) (i : Nat) : Runs mayFail p (p.turn i) := by
  unfold turn
  split
  · exact .step .refl (.ask ‹_› (.answered _ _))
  · exact .refl

/-- Answers a question as the world does, and notes in the log that the operation asked it. -/
def noted (i : Nat) (st : World × List Exchange) (q : Ask) : q.Answer × (World × List Exchange) :=
  ((st.1.answer false q).1,
    ((st.1.answer false q).2, ⟨i, st.1.ticks, ⟨q, (st.1.answer false q).1⟩⟩ :: st.2))

/-- One operation goes on alone up to a question of a kind. -/
theorem runs_runUntil {stop : Ask → Bool} {d d' : Program α} {w : World} {log : List Exchange}
    (hi : p.ops[i]? = some d)
    (h : Dialog.runUntil stop (noted i) (p.world, p.log) d = (d', (w, log))) :
    Runs mayFail p ⟨w, p.ops.set i d', log⟩ := by
  have hself : ∀ {p : Pool α} {d : Program α}, p.ops[i]? = some d → p.ops.set i d = p.ops := by
    intro p d hi
    obtain ⟨hlt, rfl⟩ := List.getElem?_eq_some_iff.1 hi
    exact List.set_getElem_self hlt
  induction d generalizing p with
  | done a =>
    cases h
    rw [hself hi]
    exact .refl
  | ask q next ih =>
    unfold Dialog.runUntil at h
    split at h
    · cases h
      rw [hself hi]
      exact .refl
    · have hstep : Step mayFail p _ := .ask hi (.answered p.world q)
      have hlt := (List.getElem?_eq_some_iff.1 hi).1
      have hrun := ih _ (p := ⟨(p.world.answer false q).2,
        p.ops.set i (next (p.world.answer false q).1), ⟨i, p.world.ticks, ⟨q, _⟩⟩ :: p.log⟩)
        (List.getElem?_set_self hlt) h
      rw [List.set_set] at hrun
      exact (Runs.step .refl hstep).trans hrun

/-- One operation goes on alone to its end. -/
def finish (p : Pool α) (i : Nat) : Pool α :=
  match p.ops[i]? with
  | some d =>
    let (a, st) := Dialog.run (noted i) (p.world, p.log) d
    ⟨st.1, p.ops.set i (.done a), st.2⟩
  | none => p

theorem runs_finish (p : Pool α) (i : Nat) : Runs mayFail p (p.finish i) := by
  unfold finish
  split
  · exact runs_runUntil ‹_› (Dialog.runUntil_never (noted i) _ (p.world, p.log))
  · exact .refl

/-- Alone, an operation ends as it does outside of a pool. -/
theorem finish_of_getElem? {d : Program α} (hi : p.ops[i]? = some d) :
    (p.finish i).world = (p.world.run false d).2 ∧
      (p.finish i).ops = p.ops.set i (.done (p.world.run false d).1) := by
  have hr := Dialog.run_noting (World.answer false)
    (fun w log q => (⟨i, w.ticks, ⟨q, (w.answer false q).1⟩⟩ : Exchange) :: log) d p.world p.log
  unfold finish
  rw [hi]
  exact ⟨hr.2, congrArg (fun a => p.ops.set i (.done a)) hr.1⟩

/-! ## What operations say -/

theorem saidBy_cons_self (w : World) (ops : List (Program α)) (log : List Exchange) (i n : Nat)
    (said : Said) : saidBy ⟨w, ops, ⟨i, n, said⟩ :: log⟩ i = said :: saidBy ⟨w, ops, log⟩ i := by
  simp only [saidBy, List.filter_cons, beq_self_eq_true, if_true, List.map_cons]

theorem saidBy_cons_of_ne {j : Nat} (h : j ≠ i) (w : World) (ops : List (Program α))
    (log : List Exchange) (n : Nat) (said : Said) :
    saidBy ⟨w, ops, ⟨j, n, said⟩ :: log⟩ i = saidBy ⟨w, ops, log⟩ i := by
  unfold saidBy
  rw [List.filter_cons_of_neg (by simpa using h)]

theorem mem_saidBy {said : Said} :
    said ∈ p.saidBy i ↔ ∃ n, (⟨i, n, said⟩ : Exchange) ∈ p.log := by
  unfold saidBy
  rw [List.mem_map]
  refine ⟨fun ⟨x, hx, he⟩ => ?_, fun ⟨n, h⟩ => ⟨_, List.mem_filter.2 ⟨h, beq_self_eq_true i⟩, rfl⟩⟩
  obtain ⟨hm, ho⟩ := List.mem_filter.1 hx
  obtain ⟨j, n, y⟩ := x
  obtain rfl : j = i := by simpa using ho
  exact ⟨n, he ▸ hm⟩

/-- An operation that is under way says what a dialog says that goes on from what it has said. -/
def IsTalking (asks : List Said → Ask → Prop) (ends : List Said → α → Prop) (i : Nat)
    (p : Pool α) : Prop :=
  ∃ d, p.ops[i]? = some d ∧ Dialog.Holds Dialog.Noting asks ends (p.saidBy i) d

variable {asks : List Said → Ask → Prop} {ends : List Said → α → Prop}

theorem Step.isTalking (hs : Step mayFail p p') (h : IsTalking asks ends i p) :
    IsTalking asks ends i p' := by
  obtain ⟨d, hd, ht⟩ := h
  cases hs with
  | pass => exact ⟨d, hd, ht⟩
  | @ask j q next a w hj _ =>
    by_cases hij : j = i
    · subst hij
      rw [hj] at hd
      cases hd
      refine ⟨next a, ?_, ?_⟩
      · rw [List.getElem?_set_self (List.getElem?_eq_some_iff.1 hj).1]
      · rw [saidBy_cons_self]
        exact ht.2 a _ rfl
    · refine ⟨d, ?_, ?_⟩
      · rw [List.getElem?_set_ne hij]
        exact hd
      · rw [saidBy_cons_of_ne hij]
        exact ht

/-- However a pool runs, each of its operations says what its dialog says. -/
theorem Runs.isTalking {w : World} {ops : List (Program α)} {d : Program α}
    (h : Runs mayFail (start w ops) p) (hd : ops[i]? = some d)
    (ht : Dialog.Holds Dialog.Noting asks ends [] d) :
    IsTalking asks ends i p :=
  h.keeps (fun _ _ hi hs => hs.isTalking hi) ⟨d, hd, ht⟩

/-- However a pool runs, an operation in it says what operations ensure that they say. -/
theorem Runs.isTalking_of_ensures {β : Type} {q : Pool (Except AuthError β)} {w : World}
    {ops : List (Program (Except AuthError β))} {op : Operation β}
    {ends : List Said → Except AuthError β → Prop} (h : Runs mayFail (start w ops) q)
    (hd : ops[i]? = some op.run)
    (he : Dialog.Ensures Dialog.Noting asks [] op (fun a said => ends said (.ok a))
      fun e said => ends said (.error e)) : IsTalking asks ends i q :=
  h.isTalking hd he.holds_run

theorem IsTalking.of_ask (h : IsTalking asks ends i p) {q : Ask} {next : q.Answer → Program α}
    (hi : p.ops[i]? = some (.ask q next)) : asks (p.saidBy i) q := by
  obtain ⟨d, hd, ht⟩ := h
  rw [hi] at hd
  cases hd
  exact ht.1

theorem IsTalking.of_done (h : IsTalking asks ends i p) {a : α}
    (hi : p.ops[i]? = some (.done a)) : ends (p.saidBy i) a := by
  obtain ⟨d, hd, ht⟩ := h
  rw [hi] at hd
  cases hd
  exact ht

theorem Step.log_suffix (hs : Step mayFail p p') : p.log <:+ p'.log := by
  cases hs with
  | ask => exact List.suffix_cons _ _
  | pass => exact List.suffix_rfl

/-- What has been said stays said. -/
theorem Runs.log_suffix (h : Runs mayFail p p') : p.log <:+ p'.log := by
  induction h with
  | refl => exact List.suffix_rfl
  | step _ hs ih => exact ih.trans hs.log_suffix

theorem Runs.mem_saidBy (h : Runs mayFail p p') {x : Said} (hx : x ∈ p.saidBy i) :
    x ∈ p'.saidBy i := by
  obtain ⟨n, hn⟩ := Pool.mem_saidBy.1 hx
  exact Pool.mem_saidBy.2 ⟨n, h.log_suffix.subset hn⟩

/-- Who is over has had all its questions answered. -/
theorem Runs.asked_of_done {q : Ask} {next : q.Answer → Program α} {a : α}
    (h : Runs mayFail p p') (hi : p.ops[i]? = some (.ask q next))
    (hd : p'.ops[i]? = some (.done a)) :
    ∃ x ∈ p'.saidBy i, x.1 = q := by
  have hI : p'.ops[i]? = some (.ask q next) ∨ ∃ x ∈ p'.saidBy i, x.1 = q := by
    refine h.keeps (I := fun p => p.ops[i]? = some (.ask q next) ∨ ∃ x ∈ p.saidBy i, x.1 = q)
      (fun p p' hp hs => ?_) (Or.inl hi)
    rcases hp with hp | ⟨x, hx, hq⟩
    · cases hs with
      | pass => exact Or.inl hp
      | @ask j q' next' b w hj _ =>
        by_cases hij : j = i
        · subst hij
          rw [hj] at hp
          cases hp
          refine Or.inr ⟨⟨q, b⟩, ?_, rfl⟩
          rw [saidBy_cons_self]
          exact .head _
        · refine Or.inl ?_
          rw [List.getElem?_set_ne hij]
          exact hp
    · exact Or.inr ⟨x, (Runs.step .refl hs).mem_saidBy hx, hq⟩
  rcases hI with h | h
  · rw [hd] at h
    cases h
  · exact h

/-! ## Refresh tokens that are stored and rotated -/

/-- The texts of the refresh tokens that were to be stored. -/
def minted (p : Pool α) : List String := p.log.filterMap fun x => x.said.1.mints

/-- The texts of the refresh tokens that were rotated. -/
def rotations (p : Pool α) : List String := p.log.filterMap fun x => x.said.rotates

theorem count_filterMap_cons {β : Type} (f : β → Option String) (x : β) (l : List β) (t : String) :
    ((x :: l).filterMap f).count t = (f x).toList.count t + (l.filterMap f).count t := by
  rw [List.filterMap_cons]
  cases f x with
  | none => exact (Nat.zero_add _).symm
  | some u => exact (List.count_append : ([u] ++ l.filterMap f).count t = _)

/-- Each rotation of a text takes an unrevoked record that there was at the start, or one that has
been stored since. -/
theorem Runs.rotations_le {w : World} {ops : List (Program α)} (h : Runs mayFail (start w ops) p)
    (t : String) : p.rotations.count t + (p.world.store.holdsUnrevoked t).toNat ≤
      (w.store.holdsUnrevoked t).toNat + p.minted.count t := by
  refine h.keeps (I := fun p => p.rotations.count t + (p.world.store.holdsUnrevoked t).toNat ≤
    (w.store.holdsUnrevoked t).toNat + p.minted.count t) (fun p p' hp hs => ?_) ?_
  · cases hs with
    | pass => exact hp
    | ask hi ht =>
      have := ht.rotates_le_mints t
      unfold rotations minted at hp ⊢
      rw [count_filterMap_cons, count_filterMap_cons]
      dsimp only at this ⊢
      omega
  · exact Nat.le_of_eq (Nat.add_comm _ _)

/-- Where a text is rotated once at most, one operation at most has rotated it. -/
theorem op_unique {t : String} (h : p.rotations.count t ≤ 1) {j : Nat} {x y : Said}
    (hx : x ∈ p.saidBy i) (hy : y ∈ p.saidBy j) (hxt : x.rotates = some t)
    (hyt : y.rotates = some t) : i = j := by
  have hlist : ∀ log : List Exchange, (log.filterMap fun x => x.said.rotates).count t ≤ 1 →
      ∀ e ∈ log, ∀ f ∈ log, e.said.rotates = some t → f.said.rotates = some t → e = f := by
    intro log
    induction log with
    | nil => exact fun _ _ he => nomatch he
    | cons g log ih =>
      intro hc e he f hf het hft
      rw [count_filterMap_cons] at hc
      have hnone : g.said.rotates = some t → ∀ e ∈ log, e.said.rotates ≠ some t := by
        intro hg e he het
        rw [hg] at hc
        have : 0 < (log.filterMap fun x => x.said.rotates).count t :=
          List.count_pos_iff.2 (List.mem_filterMap.2 ⟨e, he, het⟩)
        rw [Option.toList_some, List.count_singleton_self] at hc
        omega
      rcases List.mem_cons.1 he with rfl | he' <;> rcases List.mem_cons.1 hf with rfl | hf'
      · rfl
      · exact absurd hft (hnone het f hf')
      · exact absurd het (hnone hft e he')
      · exact ih (by omega) e he' f hf' het hft
  obtain ⟨n, hn⟩ := Pool.mem_saidBy.1 hx
  obtain ⟨m, hm⟩ := Pool.mem_saidBy.1 hy
  exact congrArg Exchange.op (hlist p.log h _ hn _ hm hxt hyt)

end Pool

end SignIn
