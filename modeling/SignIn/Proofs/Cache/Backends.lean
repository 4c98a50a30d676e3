-- Two caches that give the same answers: the one in memory, and the one that
-- a server keeps which does what is documented of the four commands. Both
-- stand, key by key, to the questions before them in the same way.
import SignIn.Cache.Remote
import SignIn.Proofs.Cache.Lifetimes
import SignIn.Proofs.Text.Decimal

namespace SignIn.Cache

open Text.Decimal (ofNat int64High nat64High)

/-! ## Milliseconds and ticks -/

/-- A clock in nanoseconds, as it is told in milliseconds. -/
structure Clock where
  ticks : Nat → Nat
  ticks_add : ∀ t n, ticks (t + n) = ticks t + n * 1000000

/-- The clock that begins at a number of nanoseconds. -/
def Clock.beginning (origin : Nat) : Clock := ⟨fun t => origin + t * 1000000, fun t n => by omega⟩

/-- A question at a millisecond, on a clock in nanoseconds. -/
def Timed.inTicks (clock : Clock) (c : Timed) : Timed := ⟨clock.ticks c.time, c.question⟩

/-- An entry whose time is over at a millisecond, on a clock in nanoseconds. -/
def Entry.inTicks (clock : Clock) (e : Entry) : Entry := ⟨e.value, clock.ticks e.expiresAt⟩

/-- A set gives its value whole milliseconds, at least one, and ends within 64 bits. -/
def Timed.InMillis (c : Timed) : Prop :=
  ∀ key value lifetime, c.question = .set key value lifetime →
    ∃ n, lifetime = .ofMillis n ∧ 0 < n ∧ ((c.time + n : Nat) : Int) ≤ int64High

theorem Clock.ticks_mono (clock : Clock) {s t : Nat} (h : s ≤ t) :
    clock.ticks s ≤ clock.ticks t := by
  obtain ⟨n, rfl⟩ := Nat.exists_eq_add_of_le h
  rw [clock.ticks_add]
  exact Nat.le_add_right _ _

theorem Clock.ticks_lt_ticks (clock : Clock) {s t : Nat} :
    clock.ticks s < clock.ticks t ↔ s < t := by
  refine ⟨fun h => Nat.lt_of_not_le fun hle => absurd (clock.ticks_mono hle) (Nat.not_le.2 h),
    fun h => ?_⟩
  obtain ⟨n, rfl⟩ := Nat.exists_eq_add_of_lt h
  rw [Nat.add_assoc, clock.ticks_add]
  omega

theorem Clock.ticks_lt_late (clock : Clock) {s t late : Nat} :
    clock.ticks s < clock.ticks t + late * 1000000 ↔ s < t + late := by
  rw [← clock.ticks_add, clock.ticks_lt_ticks]

/-- The milliseconds left are read as the time left. -/
theorem timeOfMillis_left (clock : Clock) {s t : Nat} (h : clock.ticks s < clock.ticks t) :
    Remote.timeOfMillis (t - s : Nat) = some ⟨clock.ticks t - clock.ticks s⟩ := by
  obtain ⟨n, rfl⟩ := Nat.exists_eq_add_of_le (Nat.le_of_lt (clock.ticks_lt_ticks.1 h))
  rw [clock.ticks_add] at h ⊢
  have hleft : (0 : Int) < (n : Int) := by omega
  rw [Nat.add_sub_cancel_left, Nat.add_sub_cancel_left, Remote.timeOfMillis, if_pos hleft,
    Int.toNat_natCast, Time.Duration.ofMillis]

/-! ## Words -/

theorem Remote.lifetimeMillis_ofMillis {n : Nat} (hn : 0 < n) (hhigh : n ≤ nat64High) :
    Remote.lifetimeMillis (.ofMillis n) = n := by
  have hmillis : (Time.Duration.ofMillis n).millis = n := Nat.mul_div_cancel n (by decide)
  rw [Remote.lifetimeMillis, hmillis, Nat.min_eq_left hhigh, Nat.max_eq_right hn]

theorem Remote.command_set {n : Nat} (hn : 0 < n) (hhigh : (n : Int) ≤ int64High)
    (key value : String) :
    Remote.command (.set key value (.ofMillis n)) = ["PSETEX", key, ofNat n, value] := by
  have hword : n ≤ nat64High := by
    unfold int64High at hhigh
    unfold nat64High
    omega
  rw [Remote.command, Remote.lifetimeMillis_ofMillis hn hword]

/-! ## What the server documents -/

section

variable {σ : Type}

/-- What a server documents of the commands. `keyspace` is what it has under each key at a
millisecond, an entry with the millisecond at which its time is over; the server may keep it for
`late` milliseconds more. For a key that it does not have, the time left is `-2`. -/
structure Documents (late : Nat) (server : σ → Nat → List String → Remote.Reply × σ)
    (keyspace : σ → Nat → String → Option Entry) : Prop where
  passes : ∀ s t t' key, t ≤ t' →
    keyspace s t' key = (keyspace s t key).filter fun e => t' < e.expiresAt + late
  set_reply : ∀ s t key value n, 0 < n → ((t + n : Nat) : Int) ≤ int64High →
    (server s t ["PSETEX", key, ofNat n, value]).1 = .status "OK"
  set_keyspace : ∀ s t key value n, 0 < n → ((t + n : Nat) : Int) ≤ int64High → ∀ k,
    keyspace (server s t ["PSETEX", key, ofNat n, value]).2 t k =
      if k = key then some ⟨value, t + n⟩ else keyspace s t k
  get_reply : ∀ s t key, (server s t ["GET", key]).1 =
    ((keyspace s t key).map fun e => Remote.Reply.bulk e.value).getD .nil
  get_keyspace : ∀ s t key k, keyspace (server s t ["GET", key]).2 t k = keyspace s t k
  delete_reply : ∀ s t key, (server s t ["DEL", key]).1 =
    .int (keyspace s t key).isSome.toNat
  delete_keyspace : ∀ s t key k, keyspace (server s t ["DEL", key]).2 t k =
    if k = key then none else keyspace s t k
  timeLeft_reply : ∀ s t key, (server s t ["PTTL", key]).1 =
    .int (((keyspace s t key).map fun e => ((e.expiresAt - t : Nat) : Int)).getD (-2))
  timeLeft_keyspace : ∀ s t key k, keyspace (server s t ["PTTL", key]).2 t k = keyspace s t k

/-- The answers of a server to questions, each put at its millisecond. -/
def Remote.answers (server : σ → Nat → List String → Remote.Reply × σ) (s : σ) :
    List Timed → List ((q : Request) × Except CacheError q.Answer)
  | [] => []
  | c :: calls =>
    let a := Remote.ask (fun s => server s c.time) false s c.question
    ⟨c.question, a.1⟩ :: Remote.answers server a.2 calls

/-- Each question comes before the time of what stands under its key is over, or so long after
that that a server which is late has noticed. -/
def Settled (late : Nat) (past : List Timed) : List Timed → Prop
  | [] => True
  | c :: calls =>
    (∀ e, standing past c.question.key = some e →
      c.time < e.expiresAt ∨ e.expiresAt + late ≤ c.time) ∧ Settled late (past ++ [c]) calls

theorem settled_zero (past calls : List Timed) : Settled 0 past calls := by
  induction calls generalizing past with
  | nil => trivial
  | cons c calls ih => exact ⟨fun e _ => Nat.lt_or_ge c.time e.expiresAt, ih _⟩

/-! ## The server has what stands -/

/-- What the server has at a millisecond is what stands after the questions before it, with the
lateness that it is allowed. -/
def Mirrors (late : Nat) (clock : Clock) (keyspace : σ → Nat → String → Option Entry) (s : σ)
    (past : List Timed) (t : Nat) : Prop :=
  ∀ key, (keyspace s t key).map (Entry.inTicks clock) =
    (standing past key).filter fun e => clock.ticks t < e.expiresAt + late * 1000000

variable {late : Nat} {clock : Clock} {server : σ → Nat → List String → Remote.Reply × σ}
  {keyspace : σ → Nat → String → Option Entry} {s : σ} {past : List Timed} {t : Nat}

theorem Mirrors.passes (hserver : Documents late server keyspace)
    (h : Mirrors late clock keyspace s past t) {t' : Nat} (hle : t ≤ t') :
    Mirrors late clock keyspace s past t' := by
  intro key
  have hkey := h key
  have hticks := clock.ticks_mono hle
  rw [hserver.passes s t t' key hle]
  cases hk : keyspace s t key with
  | none =>
    rw [hk, Option.map_none, eq_comm, Option.filter_eq_none_iff] at hkey
    rw [Option.filter_none, Option.map_none, eq_comm, Option.filter_eq_none_iff]
    intro e he hlate
    have hnot := hkey e he
    simp only [decide_eq_true_eq] at hnot hlate
    omega
  | some e =>
    rw [hk, Option.map_some, eq_comm, Option.filter_eq_some_iff] at hkey
    rw [hkey.1, Option.filter_some, Option.filter_some]
    simp only [Entry.inTicks, decide_eq_true_eq, clock.ticks_lt_late]
    split <;> rfl

/-- Where the server can be in no doubt, it has what is present. -/
theorem Mirrors.present_eq (h : Mirrors late clock keyspace s past t) {key : String}
    (hsettled : ∀ e, standing past key = some e →
      clock.ticks t < e.expiresAt ∨ e.expiresAt + late * 1000000 ≤ clock.ticks t) :
    present past (clock.ticks t) key = (keyspace s t key).map (Entry.inTicks clock) := by
  rw [h key]
  unfold present
  cases he : standing past key with
  | none => rw [Option.filter_none, Option.filter_none]
  | some e =>
    rw [Option.filter_some, Option.filter_some]
    rcases hsettled e he with hlive | hover
    · have hlate : clock.ticks t < e.expiresAt + late * 1000000 :=
        Nat.lt_of_lt_of_le hlive (Nat.le_add_right _ _)
      rw [if_pos (decide_eq_true hlive), if_pos (decide_eq_true hlate)]
    · have hlive : ¬ clock.ticks t < e.expiresAt :=
        Nat.not_lt.2 (Nat.le_trans (Nat.le_add_right _ _) hover)
      rw [if_neg (by simpa using hlive), if_neg (by simpa using hover)]

/-- The server's reply is read as what the cache in memory answers. -/
theorem Documents.ask_fst (hserver : Documents late server keyspace)
    (h : Mirrors late clock keyspace s past t) {q : Request} (hmillis : Timed.InMillis ⟨t, q⟩)
    (hsettled : ∀ e, standing past q.key = some e →
      clock.ticks t < e.expiresAt ∨ e.expiresAt + late * 1000000 ≤ clock.ticks t) :
    (Remote.ask (fun s => server s t) false s q).1 =
      .ok (q.answered (clock.ticks t) (present past (clock.ticks t) q.key)) := by
  cases q with
  | set key value lifetime =>
    obtain ⟨n, rfl, hn, hhigh⟩ := hmillis key value lifetime rfl
    have hreply := hserver.set_reply s t key value n hn hhigh
    rw [← Remote.command_set hn (by omega)] at hreply
    exact congrArg Remote.readDone hreply
  | get key =>
    have hpresent : present past (clock.ticks t) key = _ := h.present_eq hsettled
    change Remote.readText (server s t ["GET", key]).1 = .ok ((present _ _ key).map Entry.value)
    rw [hserver.get_reply, hpresent]
    cases keyspace s t key <;> rfl
  | delete key =>
    have hpresent : present past (clock.ticks t) key = _ := h.present_eq hsettled
    change (Remote.readNumber (server s t ["DEL", key]).1).map _ = .ok (present _ _ key).isSome
    rw [hserver.delete_reply, hpresent]
    cases keyspace s t key <;> rfl
  | timeLeft key =>
    have hpresent : present past (clock.ticks t) key = _ := h.present_eq hsettled
    change (Remote.readNumber (server s t ["PTTL", key]).1).map _ =
      .ok ((present _ _ key).map fun e => (⟨e.expiresAt - clock.ticks t⟩ : Time.Duration))
    rw [hserver.timeLeft_reply]
    cases he : keyspace s t key with
    | none =>
      rw [hpresent, he]
      rfl
    | some e =>
      rw [he, Option.map_some] at hpresent
      have hleft : clock.ticks t < clock.ticks e.expiresAt :=
        of_decide_eq_true (Option.filter_eq_some_iff.1 hpresent).2
      rw [hpresent]
      exact congrArg Except.ok (timeOfMillis_left clock hleft)

/-- What a question does to the server is what it does to what stands. -/
theorem Documents.ask_snd (hserver : Documents late server keyspace)
    (h : Mirrors late clock keyspace s past t) {q : Request} (hmillis : Timed.InMillis ⟨t, q⟩) :
    Mirrors late clock keyspace (Remote.ask (fun s => server s t) false s q).2
      (past ++ [Timed.inTicks clock ⟨t, q⟩]) t := by
  intro k
  rw [standing_append_singleton]
  cases q with
  | set key value lifetime =>
    obtain ⟨n, rfl, hn, hhigh⟩ := hmillis key value lifetime rfl
    have hafter := hserver.set_keyspace s t key value n hn hhigh k
    rw [← Remote.command_set hn (by omega)] at hafter
    change (keyspace (server s t (Remote.command _)).2 t k).map _ = Option.filter _ (ite _ _ _)
    rw [hafter]
    split
    · have hlast : clock.ticks t < clock.ticks t + n * 1000000 + late * 1000000 := by omega
      rw [Option.map_some, Option.filter_some, Entry.inTicks, clock.ticks_add]
      exact (if_pos (decide_eq_true hlast)).symm
    · exact h k
  | get key =>
    change (keyspace (server s t ["GET", key]).2 t k).map _ = Option.filter _ (standing past k)
    rw [hserver.get_keyspace]
    exact h k
  | delete key =>
    change (keyspace (server s t ["DEL", key]).2 t k).map _ = Option.filter _ (ite _ _ _)
    rw [hserver.delete_keyspace]
    split
    · rfl
    · exact h k
  | timeLeft key =>
    change (keyspace (server s t ["PTTL", key]).2 t k).map _ = Option.filter _ (standing past k)
    rw [hserver.timeLeft_keyspace]
    exact h k

theorem Mirrors.answers (hserver : Documents late server keyspace) {calls : List Timed}
    (h : Mirrors late clock keyspace s past t) (hnow : ∀ c ∈ calls, t ≤ c.time)
    (hcalls : calls.Pairwise (·.time ≤ ·.time)) (hmillis : ∀ c ∈ calls, c.InMillis)
    (hsettled : Settled (late * 1000000) past (calls.map (Timed.inTicks clock))) :
    Remote.answers server s calls =
      (answersAfter past (calls.map (Timed.inTicks clock))).map fun a => ⟨a.1, .ok a.2⟩ := by
  induction calls generalizing s past t with
  | nil => rfl
  | cons c calls ih =>
    have hc := h.passes hserver (hnow c List.mem_cons_self)
    have hin := hmillis c List.mem_cons_self
    rw [List.pairwise_cons] at hcalls
    have hrest := ih (hserver.ask_snd hc hin) hcalls.1 hcalls.2
      (fun d hd => hmillis d (List.mem_cons_of_mem c hd)) hsettled.2
    rw [Remote.answers, List.map_cons, answersAfter, List.map_cons, ← hrest]
    exact congrArg (fun a => (⟨c.question, a⟩ : (q : Request) × Except CacheError q.Answer) :: _)
      (hserver.ask_fst hc hin hsettled.1)

/-- A server that has nothing at first, and does what is documented of the commands, gives the
answers of the cache in memory to every sequence of questions whose values live for whole
milliseconds. One that may be late in noticing that a time is over does so as long as no question
comes in between. -/
theorem server_answers_as_memory (hserver : Documents late server keyspace)
    (hempty : ∀ key, keyspace s 0 key = none) {calls : List Timed}
    (hcalls : calls.Pairwise (·.time ≤ ·.time)) (hmillis : ∀ c ∈ calls, c.InMillis)
    (hsettled : late = 0 ∨ Settled (late * 1000000) [] (calls.map (Timed.inTicks clock))) :
    Remote.answers server s calls =
      (Memory.empty.answers (calls.map (Timed.inTicks clock))).map fun a => ⟨a.1, .ok a.2⟩ := by
  have hticks : (calls.map (Timed.inTicks clock)).Pairwise (·.time ≤ ·.time) :=
    List.pairwise_map.2 (hcalls.imp clock.ticks_mono)
  have hmirrors : Mirrors late clock keyspace s [] 0 := fun key => by
    rw [hempty key]
    rfl
  have hsettled : Settled (late * 1000000) [] (calls.map (Timed.inTicks clock)) := by
    rcases hsettled with rfl | h
    · rw [Nat.zero_mul]
      exact settled_zero _ _
    · exact h
  rw [(Memory.shows_empty 0).answers (fun _ _ => Nat.zero_le _) hticks]
  exact hmirrors.answers hserver (fun _ _ => Nat.zero_le _) hcalls hmillis hsettled

end

/-! ## A server -/

/-- What a server has that keeps entries until it notices that their time is over. -/
def sampleKeyspace (late : Nat) (s : String → Option Entry) (t : Nat) (key : String) :
    Option Entry :=
  (s key).filter fun e => t < e.expiresAt + late

/-- A server that does what is documented of the commands, as late as it is told to be. -/
def sampleServer (late : Nat) (s : String → Option Entry) (t : Nat) :
    List String → Remote.Reply × (String → Option Entry)
  | ["PSETEX", key, millis, value] =>
    match Text.Decimal.parseNat? nat64High millis with
    | none => (.error "ERR value is not an integer or out of range", s)
    | some n =>
      if 0 < n ∧ ((t + n : Nat) : Int) ≤ int64High then
        (.status "OK", fun k => if k = key then some ⟨value, t + n⟩ else s k)
      else (.error "ERR invalid expire time", s)
  | ["GET", key] => (((sampleKeyspace late s t key).map fun e => .bulk e.value).getD .nil, s)
  | ["DEL", key] =>
    (.int (sampleKeyspace late s t key).isSome.toNat, fun k => if k = key then none else s k)
  | ["PTTL", key] =>
    (.int (((sampleKeyspace late s t key).map fun e =>
      ((e.expiresAt - t : Nat) : Int)).getD (-2)), s)
  | _ => (.error "ERR unknown command", s)

theorem sampleServer_set (late : Nat) (s : String → Option Entry) (t : Nat) (key value : String)
    {n : Nat} (hn : 0 < n) (hhigh : ((t + n : Nat) : Int) ≤ int64High) :
    sampleServer late s t ["PSETEX", key, ofNat n, value] =
      (.status "OK", fun k => if k = key then some ⟨value, t + n⟩ else s k) := by
  have hword : n ≤ nat64High := by
    unfold int64High at hhigh
    unfold nat64High
    omega
  simp only [sampleServer, Text.Decimal.parseNat?_ofNat hword, hn, hhigh, and_self, if_true]

theorem sampleServer_documents (late : Nat) :
    Documents late (sampleServer late) (sampleKeyspace late) where
  passes s t t' key hle := by
    unfold sampleKeyspace
    cases s key with
    | none => rfl
    | some e =>
      by_cases he : t < e.expiresAt + late
      · simp [Option.filter_some, he]
      · have he' : ¬ t' < e.expiresAt + late := by omega
        simp [Option.filter_some, he, he']
  set_reply s t key value n hn hhigh := by rw [sampleServer_set late s t key value hn hhigh]
  set_keyspace s t key value n hn hhigh k := by
    have hnow : t < t + n + late := by omega
    rw [sampleServer_set late s t key value hn hhigh]
    change ((if k = key then some ⟨value, t + n⟩ else s k) : Option Entry).filter _ = _
    split
    · exact if_pos (decide_eq_true hnow)
    · rfl
  get_reply _ _ _ := rfl
  get_keyspace _ _ _ _ := rfl
  delete_reply _ _ _ := rfl
  delete_keyspace s t key k := by
    change ((if k = key then none else s k) : Option Entry).filter _ = _
    split <;> rfl
  timeLeft_reply _ _ _ := rfl
  timeLeft_keyspace _ _ _ _ := rfl

/-- Questions at milliseconds around the end of the first value, none of them at the very end. -/
def sampleCalls : List Timed :=
  [⟨10, .set "a" "x" (.ofMillis 5)⟩, ⟨14, .timeLeft "a"⟩, ⟨14, .get "a"⟩, ⟨16, .get "a"⟩,
    ⟨16, .delete "a"⟩, ⟨16, .set "a" "y" (.ofMillis 300)⟩, ⟨17, .get "b"⟩, ⟨20, .delete "a"⟩]

/-- Both caches give these answers, be the server late by a millisecond or not. -/
theorem sampleServer_answers_as_memory :
    sampleCalls.Pairwise (·.time ≤ ·.time) ∧ (∀ c ∈ sampleCalls, c.InMillis) ∧
    Settled (1 * 1000000) [] (sampleCalls.map (Timed.inTicks (.beginning 7))) ∧
    (∀ late ∈ [0, 1], Remote.answers (sampleServer late) (fun _ => none) sampleCalls =
      (Memory.empty.answers (sampleCalls.map (Timed.inTicks (.beginning 7)))).map
        fun a => ⟨a.1, .ok a.2⟩) ∧
    Memory.empty.answers (sampleCalls.map (Timed.inTicks (.beginning 7))) =
      [⟨.set "a" "x" (.ofMillis 5), ()⟩, ⟨.timeLeft "a", some (.ofMillis 1)⟩, ⟨.get "a", some "x"⟩,
        ⟨.get "a", none⟩, ⟨.delete "a", false⟩, ⟨.set "a" "y" (.ofMillis 300), ()⟩,
        ⟨.get "b", none⟩, ⟨.delete "a", true⟩] := by
  have hcalls : sampleCalls.Pairwise (·.time ≤ ·.time) := by decide
  have hmillis : ∀ c ∈ sampleCalls, c.InMillis := by
    intro c hc key value lifetime hq
    simp only [sampleCalls, List.mem_cons, List.not_mem_nil, or_false] at hc
    rcases hc with rfl | rfl | rfl | rfl | rfl | rfl | rfl | rfl <;> cases hq
    · exact ⟨5, rfl, by decide, by decide⟩
    · exact ⟨300, rfl, by decide, by decide⟩
  have hsettled : Settled (1 * 1000000) [] (sampleCalls.map (Timed.inTicks (.beginning 7))) := by
    refine ⟨?_, ?_, ?_, ?_, ?_, ?_, ?_, ?_, trivial⟩ <;> intro e he <;> cases he <;> decide
  refine ⟨hcalls, hmillis, hsettled, fun late hlate => ?_, rfl⟩
  have hlate : late = 0 ∨ late = 1 := by simpa using hlate
  refine server_answers_as_memory (sampleServer_documents late) (fun _ => rfl) hcalls hmillis ?_
  rcases hlate with rfl | rfl
  · exact Or.inl rfl
  · exact Or.inr hsettled

end SignIn.Cache
