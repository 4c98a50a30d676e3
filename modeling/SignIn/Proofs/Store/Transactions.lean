-- A rotation of refresh tokens as a transaction, whatever the database
-- replies. It is done only where all three statements are acknowledged. Where
-- it is not done, the first reply that is no acknowledgement says why, and the
-- last statement is a rollback.
import SignIn.Proofs.Dialog
import SignIn.Store.Tables

namespace SignIn.Sql

variable {α : Type} {c c' : Connection} {e : NoAnswer} {a : α} {body : Exchange α} {i j : Nat}
  {r : Reply} {onFailure : String → String → StoreError}

/-! ## Replies -/

/-- How many rows a statement changed, where it is acknowledged. -/
def Reply.affected? : Reply → Option Nat
  | .result _ affected => some affected
  | _ => none

/-- What a reply comes to. -/
def Reply.outcome (onFailure : String → String → StoreError) : Reply → Except NoAnswer Outcome
  | .result rows affected => .ok ⟨rows, affected⟩
  | .failure code message => .error (.failure (onFailure code message))
  | .silence => .error (.failure .cancelled)

theorem Reply.outcome_of_affected (onFailure : String → String → StoreError) {n : Nat}
    (h : r.affected? = some n) :
    ∃ o, r.outcome onFailure = .ok o ∧ o.affected = n := by
  cases r with
  | result rows affected => exact ⟨⟨rows, affected⟩, rfl, Option.some.inj h⟩
  | failure | silence => cases h

theorem Reply.outcome_eq_error : r.outcome onFailure = .error e ↔
    (∃ code message, r = .failure code message ∧ e = .failure (onFailure code message)) ∨
      (r = .silence ∧ e = .failure .cancelled) := by
  cases r with
  | result | silence => simp [Reply.outcome, eq_comm]
  | failure code message =>
    constructor
    · rintro ⟨⟩
      exact Or.inl ⟨code, message, rfl, rfl⟩
    · rintro (⟨_, _, ⟨⟩, rfl⟩ | ⟨⟨⟩, _⟩)
      rfl

/-- The reply to the statement of that number, counted from 0. -/
def Connection.reply (c : Connection) (i : Nat) : Reply := c.replies.getD i (.result [] 0)

/-- The statement of that number is acknowledged. -/
def Connection.Acks (c : Connection) (i : Nat) : Prop := (c.reply i).affected?.isSome

/-- The statement of that number is the first that is not acknowledged. -/
def Connection.StopsAt (c : Connection) (i : Nat) : Prop := ¬ c.Acks i ∧ ∀ j < i, c.Acks j

theorem Connection.StopsAt.unique (h : c.StopsAt i) (h' : c.StopsAt j) : i = j := by
  rcases Nat.lt_trichotomy i j with hlt | heq | hlt
  · exact absurd (h'.2 i hlt) h.1
  · exact heq
  · exact absurd (h.2 j hlt) h'.1

theorem Connection.exists_error (h : ¬ c.Acks i) (onFailure : String → String → StoreError) :
    ∃ e, (c.reply i).outcome onFailure = .error e := by
  unfold Acks at h
  cases hr : c.reply i with
  | result rows affected => exact absurd (by rw [hr]; rfl) h
  | failure | silence => exact ⟨_, rfl⟩

theorem Connection.stopsAt_of_affected? (h : (c.reply i).affected? = none)
    (hbefore : ∀ j < i, c.Acks j) : c.StopsAt i := by
  refine ⟨fun hacks => ?_, hbefore⟩
  rw [Acks, h] at hacks
  cases hacks

/-- The connection after a statement. -/
def Connection.after (c : Connection) (s : Statement) : Connection := (c.answer s).2

@[simp] theorem Connection.replies_after (s : Statement) :
    (c.after s).replies = c.replies.drop 1 := List.drop_one.symm

@[simp] theorem Connection.reply_after (s : Statement) (i : Nat) :
    (c.after s).reply i = c.reply (i + 1) := by
  rw [reply, reply, replies_after, List.getD_eq_getElem?_getD, List.getD_eq_getElem?_getD,
    List.getElem?_drop, Nat.add_comm]

/-- The connection after statements. -/
theorem Connection.foldl_after (c : Connection) (sent : List Statement) :
    sent.foldl Connection.after c = ⟨c.replies.drop sent.length, c.sent ++ sent⟩ := by
  induction sent generalizing c with
  | nil => exact congrArg (Connection.mk c.replies) (List.append_nil c.sent).symm
  | cons s rest ih =>
    have hsent : (c.after s).sent = c.sent ++ [s] := rfl
    rw [List.foldl_cons, ih, replies_after, hsent, List.drop_drop, List.append_assoc,
      List.length_cons, Nat.add_comm, List.singleton_append]

/-! ## Statements on a connection -/

theorem Connection.answer_eq (s : Statement) : c.answer s = (c.reply 0, c.after s) :=
  Prod.ext (by cases hc : c.replies <;> simp [answer, reply, hc]) rfl

theorem run_send (s : Statement) :
    c.run (send onFailure s).run = ((c.reply 0).outcome onFailure, c.after s) := by
  refine (Dialog.run_bind Connection.answer (Dialog.lift s) _ c).trans ?_
  rw [show Dialog.run Connection.answer c (Dialog.lift s) = (c.reply 0, c.after s) from
    Connection.answer_eq s]
  cases c.reply 0 <;> rfl

theorem run_send_of_ok {s : Statement} {o : Outcome} {f : Outcome → Exchange α}
    (h : (c.reply 0).outcome onFailure = .ok o) :
    c.run (send onFailure s >>= f).run = (c.after s).run (f o).run :=
  Dialog.run_bind_of_ok f ((run_send s).trans (by rw [h]))

theorem run_send_of_error {s : Statement} {f : Outcome → Exchange α}
    (h : (c.reply 0).outcome onFailure = .error e) :
    c.run (send onFailure s >>= f).run = (.error e, c.after s) :=
  Dialog.run_bind_of_error f ((run_send s).trans (by rw [h]))

/-- A transaction that is not begun says nothing more. -/
theorem run_transaction_of_unbegun (h : (c.reply 0).outcome failed = .error e) :
    c.run (transaction body).run = (.error e, c.after beginning) :=
  run_send_of_error h

theorem run_transaction_of_acks (h : c.Acks 0) : c.run (transaction body).run =
    match (c.after beginning).run body.run with
    | (.ok a, c') => (.ok a, c')
    | (.error e, c') => (.error e, c'.after rollback) := by
  obtain ⟨n, hn⟩ := Option.isSome_iff_exists.1 h
  obtain ⟨o, ho, -⟩ := Reply.outcome_of_affected failed hn
  refine (run_send_of_ok ho).trans ?_
  refine (Dialog.run_bind Connection.answer body.run _ _).trans ?_
  unfold Connection.run
  rcases Dialog.run Connection.answer (c.after beginning) body.run with ⟨_ | _, _⟩ <;> rfl

theorem run_transaction_of_ok (h : c.Acks 0)
    (hbody : (c.after beginning).run body.run = (.ok a, c')) :
    c.run (transaction body).run = (.ok a, c') := by
  rw [run_transaction_of_acks h, hbody]

/-- A transaction that stops on the way is rolled back. -/
theorem run_transaction_of_error (h : c.Acks 0)
    (hbody : (c.after beginning).run body.run = (.error e, c')) :
    c.run (transaction body).run = (.error e, c'.after rollback) := by
  rw [run_transaction_of_acks h, hbody]

end SignIn.Sql

namespace SignIn.Store.Tables

open Sql

variable {c : Connection} {e : NoAnswer} {i : Nat}

/-! ## Rotations -/

/-- What a failure of the statement of that number in a rotation means. -/
def meaning (i : Nat) : String → String → StoreError := if i = 1 then failedOrConflict else failed

theorem meaning_eq (i : Nat) (code message : String) : meaning i code message =
    if i = 1 ∧ code = "23505" then .conflict message
    else .database ("error returned from database: " ++ message) := by
  unfold meaning failedOrConflict failed
  by_cases hi : i = 1
  · rw [if_pos hi]
    simp only [hi, true_and]
  · rw [if_neg hi, if_neg fun h => hi h.1]

/-- How a rotation ends that replaced so many records. -/
def ending (n : Nat) : Statement := if n = 0 then rollback else commit

/-- What can come of a rotation, with the statements that are sent. -/
inductive Rotation (c : Connection) (s : Statement) : Except NoAnswer Bool → List Statement → Prop
  | unbegun {e : NoAnswer} (h : c.StopsAt 0) (he : (c.reply 0).outcome (meaning 0) = .error e) :
      Rotation c s (.error e) [beginning]
  | refused {e : NoAnswer} (h : c.StopsAt 1) (he : (c.reply 1).outcome (meaning 1) = .error e) :
      Rotation c s (.error e) [beginning, s, rollback]
  | unended {n : Nat} {e : NoAnswer} (h : c.StopsAt 2) (hn : (c.reply 1).affected? = some n)
      (he : (c.reply 2).outcome (meaning 2) = .error e) :
      Rotation c s (.error e) [beginning, s, ending n, rollback]
  | ended {n : Nat} (h : ∀ i < 3, c.Acks i) (hn : (c.reply 1).affected? = some n) :
      Rotation c s (.ok (decide (0 < n))) [beginning, s, ending n]

/-- What goes on inside the transaction. -/
def replacing (s : Statement) : Exchange Bool := do
  let outcome ← send failedOrConflict s
  let _ ← send failed (ending outcome.affected)
  return decide (0 < outcome.affected)

theorem rotate_eq (u : Int) (old new : String) (expiresAt : Time.Instant) :
    rotate u old new expiresAt = transaction (replacing (replaceToken u old new expiresAt)) := by
  refine congrArg (fun f => transaction (send failedOrConflict _ >>= f)) (funext fun outcome => ?_)
  unfold ending
  by_cases hzero : outcome.affected = 0
  · rw [if_pos hzero, if_pos hzero, hzero]
    rfl
  · rw [if_neg hzero, if_neg hzero, decide_eq_true (Nat.pos_of_ne_zero hzero)]

/-- Without its first statement being acknowledged, nothing more is said. -/
theorem run_replacing_of_error {s : Statement}
    (h : (c.reply 0).outcome failedOrConflict = .error e) :
    c.run (replacing s).run = (.error e, c.after s) :=
  run_send_of_error h

theorem run_replacing_of_affected {s : Statement} {n : Nat}
    (hn : (c.reply 0).affected? = some n) : c.run (replacing s).run =
      (((c.reply 1).outcome failed).map fun _ => decide (0 < n), (c.after s).after (ending n)) := by
  obtain ⟨o, ho, rfl⟩ := Reply.outcome_of_affected failedOrConflict hn
  refine (run_send_of_ok ho).trans ?_
  rw [← Connection.reply_after s 0]
  cases hend : ((c.after s).reply 0).outcome failed with
  | ok o' => exact (run_send_of_ok hend).trans rfl
  | error e => exact (run_send_of_error hend).trans rfl

/-- Of a rotation there come just the cases above. -/
theorem rotation_cases (c : Connection) (u : Int) (old new : String) (expiresAt : Time.Instant) :
    ∃ result sent,
      c.run (rotate u old new expiresAt).run = (result, sent.foldl Connection.after c) ∧
      Rotation c (replaceToken u old new expiresAt) result sent := by
  rw [rotate_eq]
  generalize replaceToken u old new expiresAt = s
  have before0 : ∀ j < 0, c.Acks j := fun j hj => absurd hj (Nat.not_lt_zero j)
  by_cases h0 : c.Acks 0
  · have before1 := Nat.forall_lt_succ_right.2 ⟨before0, h0⟩
    by_cases h1 : c.Acks 1
    · have before2 := Nat.forall_lt_succ_right.2 ⟨before1, h1⟩
      obtain ⟨n, hn⟩ := Option.isSome_iff_exists.1 h1
      have hbody := run_replacing_of_affected (c := c.after beginning) (s := s)
        ((congrArg Reply.affected? (Connection.reply_after _ 0)).trans hn)
      rw [Connection.reply_after] at hbody
      by_cases h2 : c.Acks 2
      · obtain ⟨_, hm⟩ := Option.isSome_iff_exists.1 h2
        obtain ⟨o, ho, -⟩ := Reply.outcome_of_affected failed hm
        rw [ho] at hbody
        rw [run_transaction_of_ok h0 hbody]
        exact ⟨_, _, rfl, .ended (Nat.forall_lt_succ_right.2 ⟨before2, h2⟩) hn⟩
      · obtain ⟨e, he⟩ := Connection.exists_error h2 failed
        rw [he] at hbody
        rw [run_transaction_of_error h0 hbody]
        exact ⟨_, _, rfl, .unended ⟨h2, before2⟩ hn he⟩
    · obtain ⟨e, he⟩ := Connection.exists_error h1 failedOrConflict
      rw [run_transaction_of_error h0 (run_replacing_of_error (by rwa [Connection.reply_after]))]
      exact ⟨_, _, rfl, .refused ⟨h1, before1⟩ he⟩
  · obtain ⟨e, he⟩ := Connection.exists_error h0 failed
    rw [run_transaction_of_unbegun he]
    exact ⟨_, _, rfl, .unbegun ⟨h0, before0⟩ he⟩

section

variable {s : Statement} {result : Except NoAnswer Bool} {sent : List Statement} {b : Bool}
  {text : String} {r : Reply}

/-- A rotation answers where everything is acknowledged: whether a record was replaced. -/
theorem Rotation.eq_ok_iff (h : Rotation c s result sent) : result = .ok b ↔
    c.Acks 0 ∧ (∃ n, (c.reply 1).affected? = some n ∧ b = decide (0 < n)) ∧ c.Acks 2 := by
  cases h with
  | unbegun h he => exact iff_of_false nofun fun hacks => h.1 hacks.1
  | refused h he =>
    refine iff_of_false nofun fun ⟨_, ⟨n, hn, _⟩, _⟩ => h.1 ?_
    exact Option.isSome_iff_exists.2 ⟨n, hn⟩
  | unended h hn he => exact iff_of_false nofun fun hacks => h.1 hacks.2.2
  | ended h hn =>
    constructor
    · rintro ⟨⟩
      exact ⟨h 0 (by decide), ⟨_, hn, rfl⟩, h 2 (by decide)⟩
    · rintro ⟨_, ⟨n, hn', rfl⟩, _⟩
      rw [Option.some.inj (hn.symm.trans hn')]

/-- A rotation fails where something is not acknowledged: with what the first such reply means. -/
theorem Rotation.eq_error_iff (h : Rotation c s result sent) : result = .error e ↔
    ∃ i < 3, c.StopsAt i ∧ (c.reply i).outcome (meaning i) = .error e := by
  have hstop : ∀ {k e'}, k < 3 → c.StopsAt k → (c.reply k).outcome (meaning k) = .error e' →
      ((.error e' : Except NoAnswer Bool) = .error e ↔
        ∃ i < 3, c.StopsAt i ∧ (c.reply i).outcome (meaning i) = .error e) := by
    intro k e' hk hstops he
    constructor
    · rintro ⟨⟩
      exact ⟨k, hk, hstops, he⟩
    · rintro ⟨i, _, hstops', he'⟩
      rw [hstops'.unique hstops, he] at he'
      exact congrArg _ (Except.error.inj he')
  cases h with
  | unbegun h he => exact hstop (by decide) h he
  | refused h he => exact hstop (by decide) h he
  | unended h hn he => exact hstop (by decide) h he
  | ended h hn => exact iff_of_false nofun fun ⟨i, hi, hstops, _⟩ => hstops.1 (h i hi)

theorem outcome_eq_conflict : r.outcome (meaning i) = .error (.failure (.conflict text)) ↔
    i = 1 ∧ r = .failure "23505" text := by
  cases r with
  | result | silence => simp [Reply.outcome]
  | failure code message =>
    by_cases h : i = 1 ∧ code = "23505"
    · simp [Reply.outcome, meaning_eq, h]
    · have hne : ¬ (i = 1 ∧ code = "23505" ∧ message = text) := fun hall =>
        h ⟨hall.1, hall.2.1⟩
      simp [Reply.outcome, meaning_eq, h, hne]

theorem outcome_eq_cancelled :
    r.outcome (meaning i) = .error (.failure .cancelled) ↔ r = .silence := by
  cases r with
  | result | silence => simp [Reply.outcome]
  | failure code message =>
    by_cases h : i = 1 ∧ code = "23505" <;> simp [Reply.outcome, meaning_eq, h]

theorem outcome_eq_database : r.outcome (meaning i) = .error (.failure (.database text)) ↔
    ∃ code message, r = .failure code message ∧ ¬ (i = 1 ∧ code = "23505") ∧
      text = "error returned from database: " ++ message := by
  cases r with
  | result | silence => simp [Reply.outcome]
  | failure code message =>
    by_cases h : i = 1 ∧ code = "23505"
    · simp [Reply.outcome, meaning_eq, h]
    · rw [Reply.outcome, meaning_eq, if_neg h]
      constructor
      · rintro ⟨⟩
        exact ⟨code, message, rfl, h, rfl⟩
      · rintro ⟨_, _, ⟨⟩, _, rfl⟩
        rfl

/-- How a rotation is decided by the replies to its three statements. -/
structure Decided (c : Connection) (s : Statement) (result : Except NoAnswer Bool)
    (sent : List Statement) : Prop where
  rotated : result = .ok true ↔
    c.Acks 0 ∧ (∃ n, (c.reply 1).affected? = some n ∧ 0 < n) ∧ c.Acks 2
  stale : result = .ok false ↔ c.Acks 0 ∧ (c.reply 1).affected? = some 0 ∧ c.Acks 2
  conflict : ∀ text, result = .error (.failure (.conflict text)) ↔
    c.Acks 0 ∧ c.reply 1 = .failure "23505" text
  /-- The caller gave up while a reply was awaited. -/
  cancelled : result = .error (.failure .cancelled) ↔
    ∃ i < 3, c.reply i = .silence ∧ ∀ j < i, c.Acks j
  database : ∀ text, result = .error (.failure (.database text)) ↔
    ∃ i < 3, ∃ code message, c.reply i = .failure code message ∧ (∀ j < i, c.Acks j) ∧
      ¬ (i = 1 ∧ code = "23505") ∧ text = "error returned from database: " ++ message
  otherwise : (∀ i < 3, c.reply i ≠ .silence) → result ≠ .ok true → result ≠ .ok false →
    (∀ text, result ≠ .error (.failure (.conflict text))) →
    ∃ text, result = .error (.failure (.database text))
  begins : sent.head? = some beginning
  asks : s ∈ sent ↔ c.Acks 0
  commits : commit ∈ sent ↔ c.Acks 0 ∧ ∃ n, (c.reply 1).affected? = some n ∧ 0 < n
  ends : result = .ok true → sent.getLast? = some commit
  rollsBack : c.Acks 0 → result ≠ .ok true → sent.getLast? = some rollback

/-- Besides its own statement, a rotation sends only what is about the transaction. -/
theorem Rotation.eq_or_params_eq_nil (h : Rotation c s result sent) :
    ∀ s' ∈ sent, s' = s ∨ s'.params = [] := by
  have hending : ∀ n, (ending n).params = [] := fun n => by
    unfold ending
    split <;> rfl
  have hbegin : beginning.params = [] := rfl
  have hrollback : rollback.params = [] := rfl
  cases h <;> simp [hending, hbegin, hrollback]

theorem Rotation.asks_iff (h : Rotation c s result sent) (hs : s.params ≠ []) :
    s ∈ sent ↔ c.Acks 0 := by
  cases h with
  | unbegun h he =>
    refine iff_of_false (fun hmem => hs ?_) h.1
    rw [List.mem_singleton.1 hmem]
    rfl
  | refused h he => exact iff_of_true (by simp) (h.2 0 (by decide))
  | unended h hn he => exact iff_of_true (by simp) (h.2 0 (by decide))
  | ended h hn => exact iff_of_true (by simp) (h 0 (by decide))

theorem commit_ne (hs : s.params ≠ []) : commit ≠ s := fun h => hs (h ▸ rfl)

theorem commit_mem_iff (hs : s.params ≠ []) (n : Nat) (rest : List Statement)
    (hrest : commit ∉ rest) : commit ∈ beginning :: s :: ending n :: rest ↔ 0 < n := by
  have hbegin : commit ≠ beginning := by decide
  have hend : commit = ending n ↔ 0 < n := by
    unfold ending
    split
    · exact iff_of_false (by decide) (by omega)
    · exact iff_of_true rfl (by omega)
  rw [List.mem_cons, List.mem_cons, List.mem_cons, hend]
  simp only [commit_ne hs, hbegin, hrest, false_or, or_false]

theorem Rotation.commits_iff (h : Rotation c s result sent) (hs : s.params ≠ []) :
    commit ∈ sent ↔ c.Acks 0 ∧ ∃ n, (c.reply 1).affected? = some n ∧ 0 < n := by
  have hreplaced : ∀ {n}, (c.reply 1).affected? = some n → c.Acks 0 →
      (0 < n ↔ c.Acks 0 ∧ ∃ n, (c.reply 1).affected? = some n ∧ 0 < n) := by
    intro n hn hacks
    refine ⟨fun hpos => ⟨hacks, n, hn, hpos⟩, fun ⟨_, n', hn', hpos⟩ => ?_⟩
    rwa [Option.some.inj (hn.symm.trans hn')] at *
  cases h with
  | unbegun h he => exact iff_of_false (by decide) fun hacks => h.1 hacks.1
  | refused h he =>
    refine iff_of_false ?_ fun ⟨_, n, hn, _⟩ => h.1 (Option.isSome_iff_exists.2 ⟨n, hn⟩)
    simp only [List.mem_cons, commit_ne hs, List.not_mem_nil, or_false, false_or]
    decide
  | unended h hn he =>
    rw [commit_mem_iff hs _ [rollback] (by decide)]
    exact hreplaced hn (h.2 0 (by decide))
  | ended h hn =>
    rw [commit_mem_iff hs _ [] (by decide)]
    exact hreplaced hn (h 0 (by decide))

theorem Rotation.decided (h : Rotation c s result sent) (hs : s.params ≠ []) :
    Decided c s result sent where
  rotated := by
    rw [h.eq_ok_iff]
    simp only [eq_comm (a := true), decide_eq_true_eq]
  stale := by
    rw [h.eq_ok_iff]
    refine and_congr_right fun _ => and_congr_left fun _ => ?_
    constructor
    · rintro ⟨n, hn, hzero⟩
      rw [hn, Nat.eq_zero_of_not_pos (of_decide_eq_false hzero.symm)]
    · exact fun hn => ⟨0, hn, rfl⟩
  conflict text := by
    rw [h.eq_error_iff]
    constructor
    · rintro ⟨i, _, hstops, he⟩
      obtain ⟨rfl, hr⟩ := outcome_eq_conflict.1 he
      exact ⟨hstops.2 0 (by decide), hr⟩
    · rintro ⟨hacks, hr⟩
      refine ⟨1, by decide, Connection.stopsAt_of_affected? (by rw [hr]; rfl) ?_,
        outcome_eq_conflict.2 ⟨rfl, hr⟩⟩
      exact fun j hj => Nat.lt_one_iff.1 hj ▸ hacks
  cancelled := by
    rw [h.eq_error_iff]
    refine exists_congr fun i => and_congr_right fun _ => ?_
    rw [outcome_eq_cancelled]
    constructor
    · exact fun ⟨hstops, hr⟩ => ⟨hr, hstops.2⟩
    · exact fun ⟨hr, hbefore⟩ => ⟨Connection.stopsAt_of_affected? (by rw [hr]; rfl) hbefore, hr⟩
  database text := by
    rw [h.eq_error_iff]
    refine exists_congr fun i => and_congr_right fun _ => ?_
    rw [outcome_eq_database]
    constructor
    · exact fun ⟨hstops, code, message, hr, hrest⟩ => ⟨code, message, hr, hstops.2, hrest⟩
    · rintro ⟨code, message, hr, hbefore, hrest⟩
      exact ⟨Connection.stopsAt_of_affected? (by rw [hr]; rfl) hbefore, code, message, hr, hrest⟩
  otherwise hspoken htrue hfalse hconflict := by
    rcases hresult : result with e | (_ | _)
    · obtain ⟨i, hi, _, he⟩ := h.eq_error_iff.1 hresult
      rcases Reply.outcome_eq_error.1 he with ⟨code, message, _, rfl⟩ | ⟨hr, _⟩
      · rw [meaning_eq] at hresult ⊢
        split at hresult
        · exact absurd hresult (hconflict message)
        · rename_i hno
          exact ⟨_, by rw [if_neg hno]⟩
      · exact absurd hr (hspoken i hi)
    · exact absurd hresult hfalse
    · exact absurd hresult htrue
  begins := by cases h <;> rfl
  asks := h.asks_iff hs
  commits := h.commits_iff hs
  ends hresult := by
    cases h with
    | unbegun | refused | unended => cases hresult
    | ended h hn =>
      have hpos := of_decide_eq_true (Except.ok.inj hresult)
      exact congrArg some (if_neg (Nat.ne_of_gt hpos))
  rollsBack hacks hresult := by
    cases h with
    | unbegun h he => exact absurd hacks h.1
    | refused | unended => rfl
    | ended h hn =>
      have hzero := Nat.eq_zero_of_not_pos fun hpos => hresult (by rw [decide_eq_true hpos])
      exact congrArg some (if_pos hzero)

end

/-- **A rotation is a transaction** whatever the database replies: it is done where its beginning,
the replacement of at least one record and its end are acknowledged, and nothing is committed unless
a record was replaced. -/
theorem decided_rotateToken (c : Connection) (u : Int) (old new : String)
    (expiresAt : Time.Instant) :
    ∃ result sent, (Pool.mk c false).answer false (.rotateToken u old new expiresAt) =
        (result, ⟨⟨c.replies.drop sent.length, c.sent ++ sent⟩, false⟩) ∧
      Decided c (replaceToken u old new expiresAt) result sent := by
  obtain ⟨result, sent, hrun, h⟩ := rotation_cases c u old new expiresAt
  refine ⟨result, sent, ?_, h.decided (List.cons_ne_nil _ _)⟩
  rw [← Connection.foldl_after]
  change (match c.run (rotate u old new expiresAt).run with | (a, c') => (a, Pool.mk c' false)) = _
  rw [hrun]
  rfl

end SignIn.Store.Tables
