-- What a run asks: its questions in order, each with the state that it is
-- asked in. What every single one of them keeps is kept by the run.
import SignIn.Proofs.Turns

namespace SignIn.Dialog

variable {Question : Type} {Answer : Question → Type} {α β σ ε : Type}
  {answer : σ → (q : Question) → Answer q × σ} {s : σ}

/-- The questions that a dialog asks when it is led to its end, each with the state that it is asked
in. -/
def asked (answer : σ → (q : Question) → Answer q × σ) (s : σ) :
    Dialog Question Answer α → List (σ × Question)
  | .done _ => []
  | .ask q next => (s, q) :: asked answer (answer s q).2 (next (answer s q).1)

theorem asked_bind (answer : σ → (q : Question) → Answer q × σ) (d : Dialog Question Answer α)
    (f : α → Dialog Question Answer β) (s : σ) :
    asked answer s (d >>= f) =
      asked answer s d ++ asked answer (run answer s d).2 (f (run answer s d).1) := by
  induction d generalizing s with
  | done a => rfl
  | ask q next ih => exact congrArg ((s, q) :: ·) (ih (answer s q).1 (answer s q).2)

theorem asked_bind_of_ok {op : ExceptT ε (Dialog Question Answer) α} {a : α} {r : σ}
    (f : α → ExceptT ε (Dialog Question Answer) β) (h : run answer s op.run = (.ok a, r)) :
    asked answer s (op >>= f).run = asked answer s op.run ++ asked answer r (f a).run := by
  change asked answer s (op.run >>= ExceptT.bindCont f) = _
  rw [asked_bind, h]
  rfl

/-- What every question of a run keeps, the run keeps. -/
theorem run_keeps {I : σ → Prop} {d : Dialog Question Answer α}
    (hI : ∀ x ∈ asked answer s d, I x.1 → I (answer x.1 x.2).2) (hs : I s) :
    I (run answer s d).2 := by
  induction d generalizing s with
  | done a => exact hs
  | ask q next ih => exact ih _ (fun x hx => hI x (.tail _ hx)) (hI (s, q) (.head _) hs)

variable {turn : σ → (q : Question) → Answer q → σ → Prop} {J : σ → Prop}

/-- As long as every answer is one that may be given, a run is one of the ends that a dialog may
come to. -/
theorem leads_run_of_kept
    (hJ : ∀ s q, J s → turn s q (answer s q).1 (answer s q).2 ∧ J (answer s q).2) (hs : J s)
    (d : Dialog Question Answer α) : Leads turn s d (run answer s d).1 (run answer s d).2 := by
  induction d generalizing s with
  | done a => exact .done s a
  | ask q next ih => exact .ask (hJ s q hs).1 (ih _ (hJ s q hs).2)

/-- A run asks only what its dialog holds to. -/
theorem Holds.of_mem_asked {asks : σ → Question → Prop} {ends : σ → α → Prop}
    {d : Dialog Question Answer α} (h : Holds turn asks ends s d)
    (hJ : ∀ s q, J s → turn s q (answer s q).1 (answer s q).2 ∧ J (answer s q).2) (hs : J s) :
    ∀ x ∈ asked answer s d, J x.1 ∧ asks x.1 x.2 := by
  induction d generalizing s with
  | done a => exact fun _ hx => nomatch hx
  | ask q next ih =>
    intro x hx
    rcases List.mem_cons.1 hx with rfl | hx
    · exact ⟨hs, h.1⟩
    · exact ih _ (h.2 _ _ (hJ s q hs).1) (hJ s q hs).2 x hx

end SignIn.Dialog

namespace SignIn.World

variable {w w' : World} {mayFail : Prop}

theorem SameState.trans {w'' : World} (h : SameState w w') (h' : SameState w' w'') :
    SameState w w'' :=
  ⟨h'.store.trans h.store, h'.cache.trans h.cache, h'.now.trans h.now, h'.ticks.trans h.ticks⟩

/-! ## Callers who give up -/

theorem answer_store_cancelled (hf : w.faults = []) (q : Store.Request) :
    w.answer true (.store q) = (.error .cancelled, w) := by
  change w.answerStore true q = _
  unfold answerStore
  rw [nextFailure_of_nil hf]
  rfl

theorem answer_cache_cancelled (hf : w.faults = []) (q : Cache.Request) :
    w.answer true (.cache q) = (.error .cancelled, w) := by
  change w.answerCache true q = _
  unfold answerCache
  rw [nextFailure_of_nil hf]
  rfl

/-- Where no failure is set, a caller who has given up meets with failures, and no other. -/
theorem turn_answer (cancelled : Bool) (hf : w.faults = []) (q : Ask) :
    Turn True w q (w.answer cancelled q).1 (w.answer cancelled q).2 := by
  cases cancelled with
  | false => exact .answered w q
  | true =>
    cases q with
    | store q =>
      rw [answer_store_cancelled hf]
      exact .storeFails trivial w q _
    | cache q =>
      rw [answer_cache_cancelled hf]
      exact .cacheFails trivial w q _
    | clock | deliver | freshId | freshCode | freshSalt => exact .answered w _

theorem turn_answer_kept (cancelled : Bool) (w : World) (q : Ask) (hf : w.faults = []) :
    Turn True w q (w.answer cancelled q).1 (w.answer cancelled q).2 ∧
      (w.answer cancelled q).2.faults = [] :=
  ⟨turn_answer cancelled hf q, (turn_answer cancelled hf q).faults hf⟩

/-- The questions that a run asks, each with the world that it is asked in. -/
def asked {α : Type} (cancelled : Bool) (w : World) (p : Program α) : List (World × Ask) :=
  Dialog.asked (answer cancelled) w p

/-- Whether or not its caller has given up, a run is one of the things that can happen. -/
theorem leads_run_of_nil {α : Type} (cancelled : Bool) (hf : w.faults = []) (p : Program α) :
    Dialog.Leads (Turn True) w p (w.run cancelled p).1 (w.run cancelled p).2 :=
  Dialog.leads_run_of_kept (turn_answer_kept cancelled) hf p

variable {α : Type} {op : Operation α} {asks : World → Ask → Prop} {post : α → World → Prop}
  {fail : AuthError → World → Prop} {cancelled : Bool}

/-- A run that succeeds ends as its operation ensures. -/
theorem ensured_of_ok {a : α} (h : Dialog.Ensures (Turn True) asks w op post fail)
    (hf : w.faults = []) (hok : (w.run cancelled op.run).1 = .ok a) :
    post a (w.run cancelled op.run).2 := by
  have hl := leads_run_of_nil cancelled hf op.run
  rw [hok] at hl
  exact h.holds.of_leads hl

/-- A run that fails ends as its operation ensures. -/
theorem ensured_of_error {e : AuthError} (h : Dialog.Ensures (Turn True) asks w op post fail)
    (hf : w.faults = []) (he : (w.run cancelled op.run).1 = .error e) :
    fail e (w.run cancelled op.run).2 := by
  have hl := leads_run_of_nil cancelled hf op.run
  rw [he] at hl
  exact h.holds.of_leads hl

end SignIn.World

namespace SignIn

open World (Turn SameState IsAside)

/-! ## Questions without effect -/

/-- A question that only looks something up in the store. -/
def Store.Request.IsLookup : Store.Request → Prop
  | .findUser _ | .findCredentials _ | .findByPhone _ | .emailExists _ | .permissionsOf _
  | .findToken _ => True
  | _ => False

theorem Store.Request.IsLookup.answer_eq {q : Store.Request} (hq : q.IsLookup) (m : Store.Memory)
    (now : Time.Instant) : (m.answer now q).2 = m := by
  cases q with
  | findUser | findCredentials | findByPhone | emailExists | permissionsOf | findToken => rfl
  | _ => exact hq.elim

/-- A question that neither the store nor the cache is changed by. -/
def Ask.IsIdle : Ask → Prop
  | .store q => q.IsLookup
  | .cache _ => False
  | _ => True

variable {mayFail : Prop} {w w' : World}

theorem World.Turn.idle {q : Ask} {a : q.Answer} (hq : q.IsIdle) (h : Turn mayFail w q a w') :
    SameState w w' := by
  cases q with
  | store q =>
    rcases h.store_cases with ⟨_, hs, _⟩ | ⟨ha, hc, hn, ht⟩
    · exact hs
    · refine ⟨?_, hc, hn, ht⟩
      rw [← Store.Request.IsLookup.answer_eq hq w.store w.now]
      exact (congrArg Prod.snd ha).symm
  | cache q => exact hq.elim
  | clock | deliver | freshId | freshCode | freshSalt =>
    refine h.aside ?_
    exact trivial

end SignIn
