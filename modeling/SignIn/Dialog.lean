-- Dialogs: what one side asks, one question at a time, and how it goes on
-- from each answer. Who answers, and what happens between two questions, is
-- left open, so that a law about a dialog holds for every partner.

namespace SignIn

/-- A dialog: over, or about to ask a question. -/
inductive Dialog (Question : Type) (Answer : Question → Type) (α : Type)
  | done (a : α)
  | ask (q : Question) (next : Answer q → Dialog Question Answer α)

namespace Dialog

variable {Question : Type} {Answer : Question → Type} {α β σ : Type}

/-- Goes on with another dialog. -/
def bind (d : Dialog Question Answer α) (f : α → Dialog Question Answer β) :
    Dialog Question Answer β :=
  match d with
  | .done a => f a
  | .ask q next => .ask q fun answer => bind (next answer) f

instance : Monad (Dialog Question Answer) where
  pure := .done
  bind := bind

/-- Asks one question. -/
def lift (q : Question) : Dialog Question Answer (Answer q) := .ask q .done

/-- Leads a dialog to its end with a partner whose state each question may change. -/
def run (answer : σ → (q : Question) → Answer q × σ) (s : σ) :
    Dialog Question Answer α → α × σ
  | .done a => (a, s)
  | .ask q next =>
    let (a, s) := answer s q
    run answer s (next a)

/-- Leads a dialog up to the first question of a kind. -/
def runUntil (stop : Question → Bool) (answer : σ → (q : Question) → Answer q × σ) (s : σ) :
    Dialog Question Answer α → Dialog Question Answer α × σ
  | .done a => (.done a, s)
  | .ask q next =>
    if stop q then (.ask q next, s)
    else
      let (a, s) := answer s q
      runUntil stop answer s (next a)

/-- Leads dialogs to their ends one after the other. -/
def runAll (answer : σ → (q : Question) → Answer q × σ) (s : σ) :
    List (Dialog Question Answer α) → List α × σ
  | [] => ([], s)
  | d :: ds =>
    let (a, s) := run answer s d
    let (as, s) := runAll answer s ds
    (a :: as, s)

/-- Leads dialogs one after the other, each up to the first question of a kind. -/
def runAllUntil (stop : Question → Bool) (answer : σ → (q : Question) → Answer q × σ) (s : σ) :
    List (Dialog Question Answer α) → List (Dialog Question Answer α) × σ
  | [] => ([], s)
  | d :: ds =>
    let (d, s) := runUntil stop answer s d
    let (ds, s) := runAllUntil stop answer s ds
    (d :: ds, s)

/-- Leads dialogs that meet at a question: each waits there for the others, then they go on one
after the other. -/
def race (stop : Question → Bool) (answer : σ → (q : Question) → Answer q × σ) (s : σ)
    (ds : List (Dialog Question Answer α)) : List α × σ :=
  let (ds, s) := runAllUntil stop answer s ds
  runAll answer s ds

/-! ## Laws -/

@[simp] theorem pure_bind (a : α) (f : α → Dialog Question Answer β) :
    (pure a >>= f : Dialog Question Answer β) = f a := rfl

@[simp] theorem done_bind (a : α) (f : α → Dialog Question Answer β) :
    (done a >>= f : Dialog Question Answer β) = f a := rfl

@[simp] theorem ask_bind (q : Question) (next : Answer q → Dialog Question Answer α)
    (f : α → Dialog Question Answer β) :
    (ask q next >>= f : Dialog Question Answer β) = ask q fun answer => next answer >>= f := rfl

/-- A dialog that goes on with another one is led to its end by leading the one, then the other. -/
theorem run_bind (answer : σ → (q : Question) → Answer q × σ) (d : Dialog Question Answer α)
    (f : α → Dialog Question Answer β) (s : σ) :
    run answer s (d >>= f) = run answer (run answer s d).2 (f (run answer s d).1) := by
  induction d generalizing s with
  | done a => rfl
  | ask q next ih => exact ih (answer s q).1 (answer s q).2

/-- A partner who answers like another, and only notes something besides, leads a dialog to the same
end. -/
theorem run_noting {τ : Type} (answer : σ → (q : Question) → Answer q × σ)
    (note : σ → τ → Question → τ) (d : Dialog Question Answer α) (s : σ) (t : τ) :
    let noting := fun (st : σ × τ) (q : Question) =>
      ((answer st.1 q).1, ((answer st.1 q).2, note st.1 st.2 q))
    (run noting (s, t) d).1 = (run answer s d).1 ∧
      (run noting (s, t) d).2.1 = (run answer s d).2 := by
  induction d generalizing s t with
  | done a => exact ⟨rfl, rfl⟩
  | ask q next ih => exact ih (answer s q).1 (answer s q).2 (note s t q)

end Dialog

end SignIn
