-- Operations in their course: the clocks go on between two questions, and the
-- caller may give up at any moment. Nothing else fails.
import SignIn.Proofs.Asked
import SignIn.Proofs.Cache.Consuming

namespace SignIn.Dialog

variable {Question : Type} {Answer : Question → Type} {α σ : Type}
  {turn : σ → (q : Question) → Answer q → σ → Prop} {s s' : σ}

/-! ## What is asked on the way -/

/-- A dialog leads from one state to another with a result, and these questions are asked on the
way. -/
inductive Passes (turn : σ → (q : Question) → Answer q → σ → Prop) :
    σ → Dialog Question Answer α → List Question → α → σ → Prop
  | done (s : σ) (a : α) : Passes turn s (.done a) [] a s
  | ask {s s' s'' : σ} {q : Question} {next : Answer q → Dialog Question Answer α} {a : Answer q}
      {later : List Question} {b : α} (ht : turn s q a s')
      (h : Passes turn s' (next a) later b s'') : Passes turn s (.ask q next) (q :: later) b s''

variable {d : Dialog Question Answer α} {asked : List Question} {a : α}

theorem Passes.leads (h : Passes turn s d asked a s') : Leads turn s d a s' := by
  induction h with
  | done s a => exact .done s a
  | ask ht _ ih => exact .ask ht ih

/-- As long as every answer is one that may be given, a run is one of the ways that a dialog may
take. -/
theorem passes_run {answer : σ → (q : Question) → Answer q × σ} {J : σ → Prop}
    (hJ : ∀ s q, J s → turn s q (answer s q).1 (answer s q).2 ∧ J (answer s q).2) (hs : J s)
    (d : Dialog Question Answer α) : Passes turn s d ((Dialog.asked answer s d).map Prod.snd)
      (run answer s d).1 (run answer s d).2 := by
  induction d generalizing s with
  | done a => exact .done s a
  | ask q next ih => exact .ask (hJ s q hs).1 (ih _ (hJ s q hs).2)

variable {asks : σ → Question → Prop} {ends : σ → α → Prop}

/-- What all that a dialog holds to asking has in common, all that is asked has. -/
theorem Holds.of_passes {P : Question → Prop} (h : Holds turn asks ends s d)
    (hp : Passes turn s d asked a s') (hP : ∀ s q, asks s q → P q) : ∀ q ∈ asked, P q := by
  induction hp with
  | done => exact fun _ hq => nomatch hq
  | ask ht _ ih =>
    intro q hq
    rcases List.mem_cons.1 hq with rfl | hq
    · exact hP _ _ h.1
    · exact ih (h.2 _ _ ht) q hq

/-- What all that a dialog holds to asking keeps, the dialog keeps. -/
theorem Holds.keeps {I : σ → Prop} (h : Holds turn asks ends s d) (hl : Leads turn s d a s')
    (hI : ∀ s q a s', I s → asks s q → turn s q a s' → I s') (hs : I s) : I s' := by
  induction hl with
  | done => exact hs
  | ask ht _ ih => exact ih (h.2 _ _ ht) (hI _ _ _ _ hs h.1 ht)

/-- An operation that fails ends as it ensures. -/
theorem Ensures.of_failed {ε : Type} {op : ExceptT ε (Dialog Question Answer) α}
    {post : α → σ → Prop} {fail : ε → σ → Prop} {e : ε} (h : Ensures turn asks s op post fail)
    (hl : Leads turn s op.run (.error e) s') : fail e s' :=
  h.holds.of_leads hl

end SignIn.Dialog

namespace SignIn

open Dialog (Ensures)
open Operation (ensures_ask ensures_storeOr ensures_cacheOr)

namespace World

/-! ## Turns that take time -/

/-- How a question turns out in its course: first the clocks may go on, then the world answers, to a
caller who may have given up. -/
inductive InCourse : World → (q : Ask) → q.Answer → World → Prop
  | answered {w : World} (hf : w.faults = []) (wallNanos : Int) (tickNanos : Nat)
    (cancelled : Bool) (q : Ask) :
    InCourse w q ((w.advance wallNanos tickNanos).answer cancelled q).1
      ((w.advance wallNanos tickNanos).answer cancelled q).2

/-- Nothing has happened but that time may have passed. -/
structure Aged (w w' : World) : Prop where
  store : w'.store = w.store
  cache : w'.cache = w.cache
  ticks : w.ticks ≤ w'.ticks

variable {w w' w'' : World}

theorem Aged.refl (w : World) : Aged w w := ⟨rfl, rfl, Nat.le_refl _⟩

theorem Aged.trans (h : Aged w w') (h' : Aged w' w'') : Aged w w'' :=
  ⟨h'.store.trans h.store, h'.cache.trans h.cache, Nat.le_trans h.ticks h'.ticks⟩

theorem aged_advance (w : World) (wallNanos : Int) (tickNanos : Nat) :
    Aged w (w.advance wallNanos tickNanos) :=
  ⟨rfl, rfl, Nat.le_add_right _ _⟩

theorem advance_zero (w : World) : w.advance 0 0 = w := by
  have hnow : Time.Instant.clamp (w.now.nanos + 0) = w.now := by
    have hmem := w.now.mem
    unfold Time.Instant.clamp
    rw [Int.add_zero, dif_neg (by omega), dif_neg (by omega)]
  unfold advance
  rw [hnow, Nat.add_zero]

/-- A question that is answered at once. -/
theorem inCourse_answer (cancelled : Bool) (hf : w.faults = []) (q : Ask) :
    InCourse w q (w.answer cancelled q).1 (w.answer cancelled q).2 := by
  have h := InCourse.answered hf 0 0 cancelled q
  rw [advance_zero] at h
  exact h

/-- Behind the time that has passed there is a turn of the world. -/
theorem InCourse.exists_turn {q : Ask} {x : q.Answer} (h : InCourse w q x w') :
    ∃ wallNanos tickNanos, w.faults = [] ∧ Turn True (w.advance wallNanos tickNanos) q x w' := by
  obtain ⟨hf, wallNanos, tickNanos, cancelled⟩ := h
  have hlater : (w.advance wallNanos tickNanos).faults = [] := hf
  exact ⟨wallNanos, tickNanos, hf, turn_answer cancelled hlater _⟩

theorem InCourse.faults {q : Ask} {x : q.Answer} (h : InCourse w q x w') : w'.faults = [] := by
  obtain ⟨_, _, hf, ht⟩ := h.exists_turn
  exact ht.faults hf

/-- A run is one of the ways that a program may take in its course. -/
theorem passes_run_of_nil {α : Type} (cancelled : Bool) (hf : w.faults = []) (p : Program α) :
    Dialog.Passes InCourse w p ((w.asked cancelled p).map Prod.snd) (w.run cancelled p).1
      (w.run cancelled p).2 :=
  Dialog.passes_run (J := fun w => w.faults = []) (fun _ q hf =>
    ⟨inCourse_answer cancelled hf q, (inCourse_answer cancelled hf q).faults⟩) hf p

/-! ## Turns by their answers -/

/-- The store answers, or the caller has given up. -/
theorem InCourse.store_cases {q : Store.Request} {x : Except StoreError q.Answer}
    (h : InCourse w (.store q) x w') : (x = .error .cancelled ∧ Aged w w') ∨
      ∃ now, w.store.answer now q = (x, w'.store) ∧ w'.cache = w.cache ∧ w.ticks ≤ w'.ticks := by
  obtain ⟨hf, wallNanos, tickNanos, cancelled⟩ := h
  have hf : (w.advance wallNanos tickNanos).faults = [] := hf
  cases cancelled with
  | true =>
    rw [answer_store_cancelled hf]
    exact Or.inl ⟨rfl, aged_advance w wallNanos tickNanos⟩
  | false =>
    rw [answer_store hf]
    exact Or.inr ⟨_, rfl, rfl, Nat.le_add_right _ _⟩

/-- The cache answers, or the caller has given up. -/
theorem InCourse.cache_cases {q : Cache.Request} {x : Except CacheError q.Answer}
    (h : InCourse w (.cache q) x w') : (x = .error .cancelled ∧ Aged w w') ∨
      ∃ a, x = .ok a ∧ w.cache.answer w'.ticks q = (a, w'.cache) ∧ w'.store = w.store ∧
        w.ticks ≤ w'.ticks := by
  obtain ⟨hf, wallNanos, tickNanos, cancelled⟩ := h
  have hf : (w.advance wallNanos tickNanos).faults = [] := hf
  cases cancelled with
  | true =>
    rw [answer_cache_cancelled hf]
    exact Or.inl ⟨rfl, aged_advance w wallNanos tickNanos⟩
  | false =>
    rw [answer_cache hf]
    exact Or.inr ⟨_, rfl, rfl, rfl, Nat.le_add_right _ _⟩

theorem InCourse.store_ok {q : Store.Request} {a : q.Answer}
    (h : InCourse w (.store q) (.ok a) w') : ∃ now, w.store.answer now q = (.ok a, w'.store) ∧
      w'.cache = w.cache ∧ w.ticks ≤ w'.ticks := by
  rcases h.store_cases with ⟨hx, _⟩ | h
  · cases hx
  · exact h

theorem InCourse.cache_ok {q : Cache.Request} {a : q.Answer}
    (h : InCourse w (.cache q) (.ok a) w') : w.cache.answer w'.ticks q = (a, w'.cache) ∧
      w'.store = w.store ∧ w.ticks ≤ w'.ticks := by
  rcases h.cache_cases with ⟨hx, _⟩ | ⟨b, hb, h⟩
  · cases hx
  · cases hb
    exact h

theorem InCourse.store_error {q : Store.Request} {e : StoreError}
    (h : InCourse w (.store q) (.error e) w') : Aged w w' ∧
      (e = .cancelled ∨ ∃ now, (w.store.answer now q).1 = .error e) := by
  rcases h.store_cases with ⟨hx, ha⟩ | ⟨now, hx, hc, ht⟩
  · cases hx
    exact ⟨ha, Or.inl rfl⟩
  · have h1 : (w.store.answer now q).1 = .error e := congrArg Prod.fst hx
    have h2 : (w.store.answer now q).2 = w'.store := congrArg Prod.snd hx
    rw [Store.Memory.answer_of_error h1] at h2
    exact ⟨⟨h2.symm, hc, ht⟩, Or.inr ⟨now, h1⟩⟩

/-- Nothing has happened with an answer of the store that comes without a change. -/
theorem InCourse.aged_of_store {q : Store.Request} {a : q.Answer}
    (h : InCourse w (.store q) (.ok a) w')
    (hsame : ∀ now, (w.store.answer now q).1 = .ok a → (w.store.answer now q).2 = w.store) :
    Aged w w' := by
  obtain ⟨now, hx, hc, ht⟩ := h.store_ok
  have hstore := hsame now (congrArg Prod.fst hx)
  exact ⟨(congrArg Prod.snd hx).symm.trans hstore, hc, ht⟩

/-- Only the store's own questions touch the store. -/
theorem InCourse.store_eq {q : Ask} {x : q.Answer} (h : InCourse w q x w') :
    w'.store = w.store ∨ ∃ r now, q = .store r ∧ w'.store = (w.store.answer now r).2 := by
  obtain ⟨_, _, _, ht⟩ := h.exists_turn
  rcases ht.store_eq with hs | ⟨r, hq, hs⟩
  · exact Or.inl hs
  · exact Or.inr ⟨r, _, hq, hs⟩

/-- Only the cache's own questions touch the cache, and no other keys than they are about. -/
theorem InCourse.find?_eq {q : Ask} {x : q.Answer} {key : String} (h : InCourse w q x w')
    (hq : ∀ r, q = .cache r → key ≠ r.key) : w'.cache.find? key = w.cache.find? key := by
  cases q with
  | cache r =>
    rcases h.cache_cases with ⟨_, ha⟩ | ⟨a, _, ha, _⟩
    · rw [ha.cache]
    · have hc : (w.cache.answer w'.ticks r).2 = w'.cache := congrArg Prod.snd ha
      rw [← hc, Cache.Memory.find?_answer_of_ne (hq r rfl)]
  | store | clock | deliver | freshId | freshCode | freshSalt =>
    obtain ⟨_, _, _, ht⟩ := h.exists_turn
    exact congrArg (Cache.Memory.find? · key) (ht.cache_eq nofun)

/-- A question without effect leaves all but the time as it is. -/
theorem InCourse.aged {q : Ask} {x : q.Answer} (hq : q.IsIdle) (h : InCourse w q x w') :
    Aged w w' := by
  obtain ⟨wallNanos, tickNanos, _, ht⟩ := h.exists_turn
  have hs := ht.idle hq
  exact (aged_advance w wallNanos tickNanos).trans ⟨hs.store, hs.cache, Nat.le_of_eq hs.ticks.symm⟩

/-- What a lookup finds is in the store, whatever the time. -/
theorem InCourse.lookup_ok {q : Store.Request} {x : q.Answer} (hl : q.IsLookup)
    (h : InCourse w (.store q) (.ok x) w') (now : Time.Instant) :
    (w.store.answer now q).1 = .ok x := by
  obtain ⟨now', ha, _⟩ := h.store_ok
  have htimeless : w.store.needsTime q = false := by
    cases q with
    | findUser | findCredentials | findByPhone | emailExists | permissionsOf | findToken => rfl
    | _ => exact hl.elim
  rw [Store.Memory.answer_eq_of_not_needsTime htimeless now' now] at ha
  exact congrArg Prod.fst ha

/-- A lookup fails only for a caller who has given up. -/
theorem InCourse.lookup_error {q : Store.Request} {e : StoreError} (hl : q.IsLookup)
    (h : InCourse w (.store q) (.error e) w') : e = .cancelled := by
  rcases h.store_error.2 with he | ⟨now, he⟩
  · exact he
  · cases q with
    | findUser | findCredentials | findByPhone | emailExists | permissionsOf | findToken => cases he
    | _ => exact hl.elim

/-- What has been looked up while time passed is in the store. -/
theorem answer_of_told {q : Store.Request} {x : q.Answer}
    (h : Dialog.Told InCourse Aged w (.store q) (.ok x) w') (hl : q.IsLookup)
    (now : Time.Instant) : (w.store.answer now q).1 = .ok x := by
  obtain ⟨w₁, _, h₁, ht, _⟩ := h
  rw [← h₁.store]
  exact ht.lookup_ok hl now

theorem cancelled_of_told {q : Store.Request} {e : StoreError}
    (h : Dialog.Told InCourse Aged w (.store q) (.error e) w') (hl : q.IsLookup) :
    e = .cancelled := by
  obtain ⟨_, _, _, ht, _⟩ := h
  exact ht.lookup_error hl

/-! ## Rules -/

variable {asks : World → Ask → Prop} {fail : AuthError → World → Prop}

theorem InCourse.ensures_lookup {onError : StoreError → AuthError} {q : Store.Request}
    {post : q.Answer → World → Prop} (hl : q.IsLookup) (hq : asks w (.store q))
    (hp : ∀ x w', Aged w w' → (w.store.answer w.now q).1 = .ok x → post x w')
    (hf : ∀ w', Aged w w' → fail (onError .cancelled) w') :
    Ensures InCourse asks w (Operation.storeOr onError q) post fail := by
  have hidle : (Ask.store q).IsIdle := hl
  refine ensures_storeOr hq (fun x w' ht => hp x w' (ht.aged hidle) (ht.lookup_ok hl w.now))
    fun e w' ht => ?_
  rw [ht.lookup_error hl]
  exact hf w' (ht.aged hidle)

theorem InCourse.ensures_idle {q : Ask} {post : q.Answer → World → Prop} (hi : q.IsIdle)
    (hq : asks w q) (hp : ∀ x w', Aged w w' → post x w') :
    Ensures InCourse asks w (Operation.ask q) post fail :=
  ensures_ask hq fun x w' ht => hp x w' (ht.aged hi)

end World

end SignIn
