-- The cache as its answers show it: a value is there from the moment it is
-- set until it is replaced, is deleted or has no time left. That its entry
-- stays behind until the key is touched again shows in no answer.
import Mathlib.Data.List.Induction
import SignIn.Proofs.Cache.Entries

namespace SignIn.Cache

/-! ## What a sequence of questions makes present -/

/-- A question that is put at a time. -/
structure Timed where
  time : Nat
  question : Request
  deriving DecidableEq

/-- What stands under a key after a question, where `e` stood there before it. -/
def Timed.leaves (c : Timed) (key : String) (e : Option Entry) : Option Entry :=
  match c.question with
  | .set k value lifetime => if key = k then some ⟨value, c.time + lifetime.nanos⟩ else e
  | .delete k => if key = k then none else e
  | .get _ | .timeLeft _ => e

/-- The question puts something else under the key, or nothing. -/
def Request.Replaces (key : String) : Request → Prop
  | .set k _ _ | .delete k => k = key
  | .get _ | .timeLeft _ => False

/-- What the latest set of a key has put there, unless a delete of the key has followed. -/
def standing (past : List Timed) (key : String) : Option Entry :=
  past.foldl (fun e c => c.leaves key e) none

/-- What is present under a key at a time: what stands there and has time left. -/
def present (past : List Timed) (now : Nat) (key : String) : Option Entry :=
  (standing past key).filter fun e => now < e.expiresAt

/-- The answer to a question where `e` is present under its key. -/
def Request.answered (now : Nat) (e : Option Entry) : (q : Request) → q.Answer
  | .set _ _ _ => ()
  | .get _ => e.map Entry.value
  | .delete _ => e.isSome
  | .timeLeft _ => e.map fun e => ⟨e.expiresAt - now⟩

/-- The answers to questions that come after others: each by what is present at its time. -/
def answersAfter (past : List Timed) : List Timed → List ((q : Request) × q.Answer)
  | [] => []
  | c :: calls =>
    ⟨c.question, c.question.answered c.time (present past c.time c.question.key)⟩ ::
      answersAfter (past ++ [c]) calls

theorem standing_append_singleton (past : List Timed) (c : Timed) (key : String) :
    standing (past ++ [c]) key = c.leaves key (standing past key) := by
  unfold standing
  rw [List.foldl_append, List.foldl_cons, List.foldl_nil]

theorem Timed.leaves_of_not_replaces {c : Timed} {key : String}
    (h : ¬ c.question.Replaces key) (e : Option Entry) : c.leaves key e = e := by
  unfold Timed.leaves
  split <;> rename_i hq
  · rw [hq] at h
    exact if_neg fun hk => h hk.symm
  · rw [hq] at h
    exact if_neg fun hk => h hk.symm
  · rfl
  · rfl

/-- The latest set of the key gives it this entry, and no delete of the key has followed. -/
def IsLatest (past : List Timed) (key : String) (e : Entry) : Prop :=
  ∃ before time value lifetime behind, past = before ++ ⟨time, .set key value lifetime⟩ :: behind ∧
    (∀ c ∈ behind, ¬ c.question.Replaces key) ∧ e = ⟨value, time + lifetime.nanos⟩

theorem not_isLatest_nil (key : String) (e : Entry) : ¬ IsLatest [] key e := by
  rintro ⟨before, _, _, _, _, h, _⟩
  exact absurd h.symm (List.append_ne_nil_of_right_ne_nil before (List.cons_ne_nil _ _))

theorem isLatest_append_singleton {past : List Timed} {c : Timed} {key : String} {e : Entry} :
    IsLatest (past ++ [c]) key e ↔
      (∃ value lifetime, c.question = .set key value lifetime ∧
        e = ⟨value, c.time + lifetime.nanos⟩) ∨
      ¬ c.question.Replaces key ∧ IsLatest past key e := by
  constructor
  · rintro ⟨before, time, value, lifetime, behind, hpast, hbehind, he⟩
    rcases List.eq_nil_or_concat behind with rfl | ⟨front, last, rfl⟩
    · obtain rfl : c = _ := List.singleton_inj.1 (List.append_inj' hpast rfl).2
      exact Or.inl ⟨value, lifetime, rfl, he⟩
    · have hpast : past ++ [c] =
          (before ++ ⟨time, .set key value lifetime⟩ :: front) ++ [last] := by
        simpa using hpast
      obtain rfl : c = last := List.singleton_inj.1 (List.append_inj' hpast rfl).2
      exact Or.inr ⟨hbehind c (by simp), before, time, value, lifetime, front,
        (List.append_inj' hpast rfl).1, fun d hd => hbehind d (by simp [hd]), he⟩
  · rintro (⟨value, lifetime, hc, he⟩ | ⟨hc, before, time, value, lifetime, behind, rfl, hb, he⟩)
    · obtain ⟨time, q⟩ := c
      obtain rfl : q = _ := hc
      exact ⟨past, time, value, lifetime, [], rfl, by simp, he⟩
    · refine ⟨before, time, value, lifetime, behind ++ [c], by simp, fun d hd => ?_, he⟩
      rcases List.mem_append.1 hd with hd | hd
      · exact hb d hd
      · exact List.mem_singleton.1 hd ▸ hc

theorem standing_eq_some_iff {past : List Timed} {key : String} {e : Entry} :
    standing past key = some e ↔ IsLatest past key e := by
  induction past using List.reverseRecOn with
  | nil => exact ⟨fun h => (by cases h), fun h => absurd h (not_isLatest_nil key e)⟩
  | append_singleton past c ih =>
    obtain ⟨now, q⟩ := c
    rw [standing_append_singleton, isLatest_append_singleton, ← ih]
    cases q with
    | set k value lifetime =>
      by_cases hk : key = k
      · subst hk
        simp [Timed.leaves, Request.Replaces, eq_comm]
      · simp [Timed.leaves, Request.Replaces, hk, Ne.symm hk]
    | delete k =>
      by_cases hk : key = k
      · simp [Timed.leaves, Request.Replaces, hk]
      · simp [Timed.leaves, Request.Replaces, hk, Ne.symm hk]
    | get k | timeLeft k => simp [Timed.leaves, Request.Replaces]

theorem present_eq_some_iff {past : List Timed} {now : Nat} {key : String} {e : Entry} :
    present past now key = some e ↔ IsLatest past key e ∧ now < e.expiresAt := by
  unfold present
  rw [Option.filter_eq_some_iff, decide_eq_true_eq, standing_eq_some_iff]

/-! ## The questions of one key -/

theorem Request.not_replaces_of_key_ne {q : Request} {key : String} (h : q.key ≠ key) :
    ¬ q.Replaces key := by
  cases q with
  | set k _ _ | delete k => exact h
  | get _ | timeLeft _ => exact not_false

/-- What stands under a key depends on the questions of that key alone. -/
theorem standing_filter (past : List Timed) (key : String) :
    standing (past.filter fun c => c.question.key = key) key = standing past key := by
  induction past using List.reverseRecOn with
  | nil => rfl
  | append_singleton past c ih =>
    rw [List.filter_append, standing_append_singleton, ← ih]
    by_cases hc : c.question.key = key
    · rw [List.filter_cons_of_pos (by simpa using hc), List.filter_nil, standing_append_singleton]
    · rw [List.filter_cons_of_neg (by simpa using hc), List.filter_nil, List.append_nil,
        Timed.leaves_of_not_replaces (Request.not_replaces_of_key_ne hc)]

theorem answersAfter_filter (calls past : List Timed) (key : String) :
    (answersAfter past calls).filter (fun a => a.1.key = key) =
      answersAfter (past.filter fun c => c.question.key = key)
        (calls.filter fun c => c.question.key = key) := by
  induction calls generalizing past with
  | nil => rfl
  | cons c calls ih =>
    rw [answersAfter]
    by_cases hc : c.question.key = key
    · have hpresent : present past c.time c.question.key =
          present (past.filter fun c => c.question.key = key) c.time c.question.key := by
        unfold present
        rw [hc, standing_filter]
      rw [List.filter_cons_of_pos (by simpa using hc), List.filter_cons_of_pos (by simpa using hc),
        answersAfter, ih, List.filter_append, hpresent, List.filter_cons_of_pos (by simpa using hc),
        List.filter_nil]
    · rw [List.filter_cons_of_neg (by simpa using hc), List.filter_cons_of_neg (by simpa using hc),
        ih, List.filter_append, List.filter_cons_of_neg (by simpa using hc), List.filter_nil,
        List.append_nil]

/-! ## The cache shows what is present -/

namespace Memory

/-- The cache after questions, each put at its time. -/
def after (m : Memory) (calls : List Timed) : Memory :=
  calls.foldl (fun m c => (m.answer c.time c.question).2) m

/-- The answers to questions, each put at its time. -/
def answers (m : Memory) : List Timed → List ((q : Request) × q.Answer)
  | [] => []
  | c :: calls =>
    ⟨c.question, (m.answer c.time c.question).1⟩ :: (m.answer c.time c.question).2.answers calls

theorem after_append_singleton (m : Memory) (calls : List Timed) (c : Timed) :
    m.after (calls ++ [c]) = ((m.after calls).answer c.time c.question).2 := by
  unfold after
  rw [List.foldl_append, List.foldl_cons, List.foldl_nil]

theorem live_fst (m : Memory) (now : Nat) (key : String) :
    (m.live now key).1 = (m.find? key).filter fun e => now < e.expiresAt := by
  unfold live
  cases m.find? key with
  | none => rfl
  | some e => by_cases he : now < e.expiresAt <;> simp [he, Option.filter_some]

/-- The answer to a question depends on the entry of its key alone, and only if that has time
left. -/
theorem answer_fst (m : Memory) (now : Nat) (q : Request) :
    (m.answer now q).1 =
      q.answered now ((m.find? q.key).filter fun e => now < e.expiresAt) := by
  rw [← live_fst]
  cases q with
  | set _ _ _ | get _ | delete _ => rfl
  | timeLeft key =>
    -- an entry that is live has time left, which is what the cache asks once more
    change (((m.live now key).1.map fun e => (⟨e.expiresAt - now⟩ : Time.Duration)).filter
      fun d => d.nanos != 0) = (m.live now key).1.map fun e => ⟨e.expiresAt - now⟩
    cases he : (m.live now key).1 with
    | none => rfl
    | some e =>
      have hleft : e.expiresAt - now ≠ 0 := Nat.sub_ne_zero_of_lt (find?_of_live he).2
      rw [Option.map_some, Option.filter_some, if_pos (by simpa using hleft)]

/-- The cache and the questions before it say the same of every key, from now on. -/
def Shows (m : Memory) (past : List Timed) (now : Nat) : Prop :=
  ∀ key later, now ≤ later →
    (m.find? key).filter (fun e => later < e.expiresAt) = present past later key

variable {m m' : Memory} {past : List Timed} {now : Nat}

/-- An entry that has been dropped because its time is over is missed at no later time. -/
theorem Sheds.filter_eq (h : m.Sheds now m') {later : Nat} (hle : now ≤ later) (key : String) :
    (m'.find? key).filter (fun e => later < e.expiresAt) =
      (m.find? key).filter fun e => later < e.expiresAt := by
  rcases h key with he | ⟨hnone, e, he, hover⟩
  · rw [he]
  · have hlater : ¬ later < e.expiresAt := Nat.not_lt.2 (Nat.le_trans hover hle)
    rw [hnone, he, Option.filter_some, if_neg (by simpa using hlater), Option.filter_none]

theorem shows_empty (now : Nat) : empty.Shows [] now := fun _ _ _ => rfl

theorem Shows.mono (h : m.Shows past now) {later : Nat} (hle : now ≤ later) :
    m.Shows past later :=
  fun key t ht => h key t (Nat.le_trans hle ht)

theorem Shows.sheds (h : m.Shows past now) (hs : m.Sheds now m') : m'.Shows past now :=
  fun key later hle => (hs.filter_eq hle key).trans (h key later hle)

/-- What a question does to the cache is what it does to what is present. -/
theorem Shows.answer (h : m.Shows past now) (q : Request) :
    (m.answer now q).2.Shows (past ++ [⟨now, q⟩]) now := by
  intro key later hle
  have hlive : ∀ k, ((m.live now k).2.find? key).filter (fun e => later < e.expiresAt) =
      present past later key := fun k =>
    (((Sheds.refl m now).live k).filter_eq hle key).trans (h key later hle)
  unfold present at hlive ⊢
  rw [standing_append_singleton]
  cases q with
  | set k value lifetime =>
    have hkeep := h key later hle
    unfold present at hkeep
    simp only [Memory.answer, Memory.set, find?_put, Timed.leaves]
    split
    · rfl
    · exact hkeep
  | delete k =>
    simp only [Memory.answer, Memory.delete, find?_erase, Timed.leaves]
    split
    · rfl
    · exact hlive k
  | get k => exact hlive k
  | timeLeft k => exact hlive k

/-- The answers of a cache that shows what is present. -/
theorem Shows.answers {calls : List Timed} (h : m.Shows past now)
    (hnow : ∀ c ∈ calls, now ≤ c.time) (hcalls : calls.Pairwise (·.time ≤ ·.time)) :
    m.answers calls = answersAfter past calls := by
  induction calls generalizing m past now with
  | nil => rfl
  | cons c calls ih =>
    have hc := h.mono (hnow c List.mem_cons_self)
    rw [List.pairwise_cons] at hcalls
    rw [Memory.answers, answersAfter, answer_fst, hc c.question.key c.time (Nat.le_refl _),
      ih (hc.answer c.question) hcalls.1 hcalls.2]

/-- After questions the cache shows what they make present. -/
theorem shows_after (hpast : past.Pairwise (·.time ≤ ·.time)) (hnow : ∀ c ∈ past, c.time ≤ now) :
    (empty.after past).Shows past now := by
  induction past using List.reverseRecOn generalizing now with
  | nil => exact shows_empty now
  | append_singleton past c ih =>
    rw [List.pairwise_append] at hpast
    have hc := ih hpast.1 fun d hd => hpast.2.2 d hd c (List.mem_singleton.2 rfl)
    rw [after_append_singleton]
    exact (hc.answer c.question).mono (hnow c (List.mem_append_right _ (List.mem_singleton.2 rfl)))

/-- The cache answers as if every value were gone the moment its time is over. What is present is
what the latest set of a key has put there, if no delete of the key has followed and its time is
not over; an answer tells just that. Which entries
without time left have been dropped shows in no answer, and no answer depends on the questions
of other keys. -/
theorem answers_eq_answersAfter (calls : List Timed) (hcalls : calls.Pairwise (·.time ≤ ·.time)) :
    empty.answers calls = answersAfter [] calls ∧
    (∀ past now key e, present past now key = some e ↔ IsLatest past key e ∧ now < e.expiresAt) ∧
    (∀ past rest now m, calls = past ++ rest → (∀ c ∈ past, c.time ≤ now) →
      (∀ c ∈ rest, now ≤ c.time) → (empty.after past).Sheds now m →
      m.answers rest = (empty.after past).answers rest) ∧
    ∀ key, (empty.answers calls).filter (fun a => a.1.key = key) =
      empty.answers (calls.filter fun c => c.question.key = key) := by
  have hall : ∀ {calls : List Timed}, calls.Pairwise (·.time ≤ ·.time) →
      empty.answers calls = answersAfter [] calls := fun h =>
    (shows_empty 0).answers (fun _ _ => Nat.zero_le _) h
  refine ⟨hall hcalls, fun past now key e => present_eq_some_iff, ?_, fun key => ?_⟩
  · rintro past rest now m rfl hpast hrest hs
    rw [List.pairwise_append] at hcalls
    have hshows := shows_after hcalls.1 hpast
    rw [hshows.answers hrest hcalls.2.1, (hshows.sheds hs).answers hrest hcalls.2.1]
  · rw [hall hcalls, hall (hcalls.filter _), answersAfter_filter]
    rfl

/-- Two keys, one of them set without any time, asked about up to the end of the other. -/
def samplePast : List Timed :=
  [⟨10, .set "a" "x" ⟨5⟩⟩, ⟨11, .set "b" "y" ⟨0⟩⟩, ⟨14, .timeLeft "a"⟩]

/-- The end of the first key, which is then set anew and deleted twice. -/
def sampleRest : List Timed :=
  [⟨15, .get "a"⟩, ⟨15, .get "b"⟩, ⟨15, .set "a" "z" ⟨100⟩⟩, ⟨16, .delete "a"⟩, ⟨16, .delete "a"⟩]

/-- The value is gone at the very end of its time, whether or not the other entry is dropped. -/
theorem sampleAnswers :
    (samplePast ++ sampleRest).Pairwise (·.time ≤ ·.time) ∧
    empty.answers (samplePast ++ sampleRest) =
      [⟨.set "a" "x" ⟨5⟩, ()⟩, ⟨.set "b" "y" ⟨0⟩, ()⟩, ⟨.timeLeft "a", some ⟨1⟩⟩, ⟨.get "a", none⟩,
        ⟨.get "b", none⟩, ⟨.set "a" "z" ⟨100⟩, ()⟩, ⟨.delete "a", true⟩, ⟨.delete "a", false⟩] ∧
    (empty.after samplePast).Sheds 14 ((empty.after samplePast).erase "b") ∧
    ((empty.after samplePast).erase "b").answers sampleRest =
      (empty.after samplePast).answers sampleRest := by
  have hcalls : (samplePast ++ sampleRest).Pairwise (·.time ≤ ·.time) := by decide
  have hsheds : (empty.after samplePast).Sheds 14 ((empty.after samplePast).erase "b") := by
    refine (Sheds.refl _ 14).erase fun e he => ?_
    cases he
    decide
  obtain ⟨hall, _, hdropped, _⟩ := answers_eq_answersAfter (samplePast ++ sampleRest) hcalls
  exact ⟨hcalls, hall.trans rfl, hsheds,
    hdropped samplePast sampleRest 14 _ rfl (by decide) (by decide) hsheds⟩

end Memory

end SignIn.Cache
