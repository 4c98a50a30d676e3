-- The code that is delivered is the code that is taken: a challenge waits for
-- it, whatever else happens, until its time is over. A fixed code is compared
-- with the normal form of what is entered, but is not in normal form itself
-- unless it has been chosen so.
import Mathlib.Control.Monad.Basic
import SignIn.Proofs.Text.Normalizing
import SignIn.Proofs.Session.Challenges
import SignIn.Proofs.Session.Histories

namespace SignIn

/-- To whom a question asks to hand a code, and the code. -/
def Ask.delivers : Ask → Option (String × String)
  | .deliver identifier code => some (identifier, code)
  | _ => none

/-- The codes that are handed over in a run, with their identifiers. -/
def World.deliveries {α : Type} (cancelled : Bool) (w : World) (p : Program α) :
    List (String × String) :=
  (w.asked cancelled p).filterMap fun x => x.2.delivers

/-- The codes are drawn from random bytes. -/
def World.DrawsCodes (w : World) : Prop :=
  ∀ n, ∃ bytes, codeDigits ≤ bytes.length ∧ w.codes.item n = codeOfBytes bytes

/-! ## Codes of digits -/

theorem isSettled_digitChar : ∀ d < 10, Text.IsSettled (Nat.digitChar d) ∧
    Text.isBlank (Nat.digitChar d) = false := by
  intro d hd
  have hall : ∀ d < 10, (Text.lowerChar (Nat.digitChar d) = [Nat.digitChar d] ∧
      Nat.digitChar d ≠ Text.capitalSigma) ∧ Text.isBlank (Nat.digitChar d) = false := by
    decide +kernel
  obtain ⟨⟨hlower, hsigma⟩, hblank⟩ := hall d hd
  exact ⟨⟨hlower, hsigma⟩, hblank⟩

/-- A code of digits is in normal form. -/
theorem normalize_codeOfBytes (bytes : List UInt8) :
    Text.normalize (codeOfBytes bytes) = codeOfBytes bytes := by
  refine Text.normalize_eq_self fun c hc => ?_
  unfold codeOfBytes at hc
  rw [String.toList_ofList] at hc
  obtain ⟨b, _, rfl⟩ := List.mem_map.1 hc
  exact isSettled_digitChar _ (Nat.mod_lt _ (by decide))

theorem isEmpty_codeOfBytes {bytes : List UInt8} (h : codeDigits ≤ bytes.length) :
    (codeOfBytes bytes).isEmpty = false := by
  have hlength : (codeOfBytes bytes).length = codeDigits := by
    simp [codeOfBytes, h]
  rw [Bool.eq_false_iff]
  intro hempty
  rw [String.isEmpty_iff] at hempty
  rw [hempty] at hlength
  cases hlength

namespace Session

open Operation
open Dialog (run_bind_of_ok asked_bind_of_ok)
open Text (normalize)
open World (Turn)

variable {s : Settings} {w : World} {identifier code : String} {e : Cache.Entry}

/-! ## Sending -/

/-- The code that is sent next. -/
def nextCode (s : Settings) (w : World) : String := (fixedCode? s.fixedCode).getD w.codes.next.1

/-- A fixed code is trimmed only, and a drawn one is in normal form. -/
theorem normalize_nextCode (hd : w.DrawsCodes) : normalize (nextCode s w) = nextCode s w ↔
    ∀ fixed, fixedCode? s.fixedCode = some fixed → normalize fixed = fixed := by
  unfold nextCode
  cases hfixed : fixedCode? s.fixedCode with
  | some fixed => simp
  | none =>
    obtain ⟨bytes, _, hdrawn⟩ := hd w.codes.used
    have hnormal : normalize w.codes.next.1 = w.codes.next.1 := by
      change normalize (w.codes.item w.codes.used) = w.codes.item w.codes.used
      rw [hdrawn]
      exact normalize_codeOfBytes bytes
    simp [hnormal]

theorem isEmpty_nextCode (hd : w.DrawsCodes) : (nextCode s w).isEmpty = false := by
  unfold nextCode
  cases hfixed : fixedCode? s.fixedCode with
  | some fixed => simpa using (Option.filter_eq_some_iff.1 hfixed).2
  | none =>
    obtain ⟨bytes, hlength, hdrawn⟩ := hd w.codes.used
    change (w.codes.item w.codes.used).isEmpty = false
    rw [hdrawn]
    exact isEmpty_codeOfBytes hlength

/-! ### What is handed over -/

theorem deliveries_bind_of_ok {α β : Type} {op : Operation α} {x : α} {w' : World}
    (f : α → Operation β) (h : w.run false op.run = (.ok x, w')) :
    w.deliveries false (op >>= f).run =
      w.deliveries false op.run ++ w'.deliveries false (f x).run := by
  unfold World.deliveries World.asked
  rw [asked_bind_of_ok f h, List.filterMap_append]

theorem run_newCode (s : Settings) (w : World) : ∃ codes,
    w.run false (newCode s.fixedCode).run = (.ok (nextCode s w), { w with codes }) ∧
      w.deliveries false (newCode s.fixedCode).run = [] := by
  unfold newCode nextCode
  cases fixedCode? s.fixedCode with
  | some fixed => exact ⟨w.codes, rfl, rfl⟩
  | none => exact ⟨w.codes.next.2, rfl, rfl⟩

theorem deliveries_cache (hf : w.faults = []) (q : Cache.Request) :
    w.deliveries false (cache q).run = [] := by
  obtain ⟨k, hk, hok⟩ := cacheOr_run .cache q
  have hrun : (cache q).run = .ask (.cache q) k := hk
  unfold World.deliveries World.asked
  rw [hrun, Dialog.asked, World.answer_cache hf, hok]
  rfl

theorem deliver_run (identifier code : String) : ∃ k,
    (deliver identifier code).run = .ask (.deliver identifier code) k ∧
      ∀ x, ∃ r, k x = .done r := by
  refine ⟨_, rfl, fun x => ?_⟩
  cases x <;> exact ⟨_, rfl⟩

/-- Handing over a code changes neither the store nor the cache. -/
theorem run_deliver (hf : w.faults = []) (identifier code : String) :
    World.SameState w (w.run false (deliver identifier code).run).2 ∧
      (w.run false (deliver identifier code).run).2.faults = [] ∧
      w.deliveries false (deliver identifier code).run = [(identifier, code)] := by
  obtain ⟨k, hk, hdone⟩ := deliver_run identifier code
  obtain ⟨r, hr⟩ := hdone (w.answer false (.deliver identifier code)).1
  have ht := World.turn_answer false hf (.deliver identifier code)
  have hrun : w.run false (deliver identifier code).run =
      (r, (w.answer false (.deliver identifier code)).2) := by
    unfold World.run
    rw [hk]
    change Dialog.run (World.answer false) _ (k (w.answer false (.deliver identifier code)).1) = _
    rw [hr]
    rfl
  have hidle : (Ask.deliver identifier code).IsIdle := trivial
  rw [hrun]
  refine ⟨ht.idle hidle, ht.faults hf, ?_⟩
  unfold World.deliveries World.asked
  rw [hk, Dialog.asked, hr]
  rfl

/-- An entry waits under the identifier for its code to be confirmed. -/
structure Awaits (s : Settings) (identifier : String) (e : Cache.Entry) (w : World) : Prop where
  faults : w.faults = []
  entry : w.cache.find? (challengeKey s identifier) = some e

/-- Whoever is sent a code is waited for, with the very code that is handed over. -/
theorem sendCode_delivers (hf : w.faults = []) (hid : (normalize identifier).isEmpty = false) :
    w.deliveries false (sendCode s identifier).run = [(normalize identifier, nextCode s w)] ∧
      Awaits s identifier ⟨nextCode s w, w.ticks + Settings.codeLifetime.nanos⟩
        (w.run false (sendCode s identifier).run).2 := by
  obtain ⟨codes, hnew, hnone⟩ := run_newCode s w
  let w₁ : World := { w with codes }
  let stored : Cache.Memory :=
    w.cache.set w.ticks (challengeKey s identifier) (nextCode s w) Settings.codeLifetime
  let w₂ : World := { w₁ with cache := stored }
  have hguard : w.run false (failIf (normalize identifier).isEmpty
      (.validation "identifier is required") : Operation Unit).run = (.ok (), w) :=
    Dialog.run_failIf hid
  have hset : w₁.run false (cache (.set (challengeKey s identifier) (nextCode s w)
      Settings.codeLifetime)).run = (.ok (), w₂) := World.run_cacheOr (w := w₁) hf rfl
  obtain ⟨hsame, hfaults, hdelivered⟩ :=
    run_deliver (w := w₂) hf (normalize identifier) (nextCode s w)
  have hrun : w.run false (sendCode s identifier).run =
      w₂.run false (deliver (normalize identifier) (nextCode s w)).run := by
    unfold sendCode World.run
    dsimp only
    rw [run_bind_of_ok _ hguard, run_bind_of_ok _ hnew]
    exact run_bind_of_ok (α := Unit) _ hset
  constructor
  · unfold sendCode
    dsimp only
    rw [deliveries_bind_of_ok _ hguard, deliveries_bind_of_ok _ hnew, hnone, hid]
    have hstored := deliveries_cache (w := w₁) hf
      (.set (challengeKey s identifier) (nextCode s w) Settings.codeLifetime)
    have hrest := deliveries_bind_of_ok (α := Unit)
      (fun _ => deliver (normalize identifier) (nextCode s w)) hset
    exact hrest.trans ((congrArg (· ++ _) hstored).trans hdelivered)
  · rw [hrun]
    refine ⟨hfaults, ?_⟩
    rw [hsame.cache]
    exact (Cache.Memory.find?_put _ _ _ _).trans (if_pos rfl)

/-! ## Confirming -/

/-- The code has been taken, whatever has come of it then. -/
def IsAccepted {α : Type} (r : Except AuthError α) : Prop :=
  ∀ e, r = .error e → e.isOfChallenge = false

theorem run_failIf_blank {error : AuthError} (hid : (normalize identifier).isEmpty = false)
    (hcode : (normalize code).isEmpty = false) : Dialog.run (World.answer false) w
      (failIf ((normalize identifier).isEmpty || (normalize code).isEmpty) error :
        Operation Unit).run = (.ok (), w) := by
  apply Dialog.run_failIf
  rw [hid, hcode]
  rfl

/-- Where nothing waits for a code, none is taken. -/
theorem run_confirmCode_of_none (hf : w.faults = []) (hid : (normalize identifier).isEmpty = false)
    (hcode : (normalize code).isEmpty = false)
    (hnone : w.cache.find? (challengeKey s identifier) = none) :
    (w.run false (confirmCode s identifier code).run).1 = .error .codeInvalidOrExpired := by
  have hget : Dialog.run (World.answer false) w (cache (.get (challengeKey s identifier))).run =
      (.ok none, w) := by
    refine World.run_cacheOr hf ?_
    change w.cache.get w.ticks (challengeKey s identifier) = _
    unfold Cache.Memory.get Cache.Memory.live
    rw [hnone]
    rfl
  unfold confirmCode World.run
  dsimp only
  rw [run_bind_of_ok _ (run_failIf_blank hid hcode)]
  exact congrArg Prod.fst (run_bind_of_ok (α := Option String) _ hget)

/-- While an entry waits, a code is compared with it; the right one removes it. -/
theorem run_confirmCode (ha : Awaits s identifier e w) (hover : w.ticks < e.expiresAt)
    (hid : (normalize identifier).isEmpty = false) (hcode : (normalize code).isEmpty = false) :
    w.run false (confirmCode s identifier code).run =
      if e.value = normalize code then
        World.run false { w with cache := w.cache.erase (challengeKey s identifier) }
          (signInByPhone s (normalize identifier)).run
      else (.error .codeMismatch, w) := by
  have hlive := Cache.Memory.live_of_find? ha.entry hover
  have hget : Dialog.run (World.answer false) w (cache (.get (challengeKey s identifier))).run =
      (.ok (some e.value), w) := by
    refine World.run_cacheOr ha.faults ?_
    change w.cache.get w.ticks (challengeKey s identifier) = _
    unfold Cache.Memory.get
    rw [hlive]
    rfl
  have hdelete : Dialog.run (World.answer false) w
      (cache (.delete (challengeKey s identifier))).run =
      (.ok true, { w with cache := w.cache.erase (challengeKey s identifier) }) := by
    refine World.run_cacheOr ha.faults ?_
    change w.cache.delete w.ticks (challengeKey s identifier) = _
    unfold Cache.Memory.delete
    rw [hlive]
    rfl
  unfold confirmCode World.run
  dsimp only
  rw [run_bind_of_ok _ (run_failIf_blank hid hcode)]
  refine (run_bind_of_ok (α := Option String) _ hget).trans ?_
  by_cases hvalue : e.value = normalize code
  · rw [if_pos hvalue, run_bind_of_ok (a := e.value) (r := w) _ rfl,
      run_bind_of_ok _ (Dialog.run_failIf (by rw [hvalue, bne_self_eq_false]))]
    exact run_bind_of_ok (α := Bool) _ hdelete
  · have hne : (e.value != normalize code) = true := bne_iff_ne.2 hvalue
    rw [if_neg hvalue, run_bind_of_ok (a := e.value) (r := w) _ rfl, hne]
    rfl

/-- What is left of a confirmation once the code is consumed does not fail for the code. -/
theorem isAccepted_signInByPhone (hk : s.HasDefaultKeys) (hf : w.faults = []) (phone : String) :
    IsAccepted (w.run false (signInByPhone s phone).run).1 := by
  intro e he
  exact (World.ensured_of_error
    (signInByPhone_serves (a := .call .purge) hk phone (.refl s w none)) hf he).1

/-- A code is taken exactly if it is the one that is waited for. -/
theorem isAccepted_confirmCode (hk : s.HasDefaultKeys) (ha : Awaits s identifier e w)
    (hover : w.ticks < e.expiresAt) :
    IsAccepted (w.run false (confirmCode s identifier code).run).1 ↔
      (normalize identifier).isEmpty = false ∧ (normalize code).isEmpty = false ∧
        e.value = normalize code := by
  by_cases hblank : ((normalize identifier).isEmpty || (normalize code).isEmpty) = true
  · have hrun : (w.run false (confirmCode s identifier code).run).1 =
        .error (.validation "identifier and code are required") := by
      unfold confirmCode
      dsimp only
      rw [hblank]
      rfl
    constructor
    · intro h
      cases h _ hrun
    · rintro ⟨hid, hcode, _⟩
      rw [hid, hcode] at hblank
      cases hblank
  · obtain ⟨hid, hcode⟩ := Bool.or_eq_false_iff.1 (Bool.eq_false_iff.2 hblank)
    rw [run_confirmCode ha hover hid hcode]
    by_cases hvalue : e.value = normalize code
    · rw [if_pos hvalue]
      have haccepted := isAccepted_signInByPhone
        (w := { w with cache := w.cache.erase (challengeKey s identifier) }) hk ha.faults
        (normalize identifier)
      exact ⟨fun _ => ⟨hid, hcode, hvalue⟩, fun _ => haccepted⟩
    · rw [if_neg hvalue]
      constructor
      · intro h
        cases h _ rfl
      · rintro ⟨_, _, h⟩
        exact absurd h hvalue

/-! ## Waiting -/

/-- The act sends a code to the identifier. -/
def Act.sends (identifier : String) : Act → Bool
  | .call c => c.sends identifier
  | .mint _ _ _ => false

/-- The act confirms the code for the identifier. -/
def Act.answers (identifier code : String) : Act → Bool
  | .call (.confirmCode id c) => normalize id == normalize identifier && normalize c == code
  | _ => false

/-- The happening sends a code to the identifier. -/
def Happening.sends (identifier : String) : Happening → Bool
  | .act _ a => a.sends identifier
  | .pass _ _ => false

/-- The happening confirms the code for the identifier. -/
def Happening.answers (identifier code : String) : Happening → Bool
  | .act _ a => a.answers identifier code
  | .pass _ _ => false

/-- No question of an act that does not send a code to the identifier puts in an entry for it. -/
theorem ne_set_of_mayAsk (hk : s.HasDefaultKeys) {a : Act} {q : Ask}
    (hs : a.sends identifier = false) (hq : a.MayAsk s w q) (value : String)
    (lifetime : Time.Duration) : q ≠ .cache (.set (challengeKey s identifier) value lifetime) := by
  rintro rfl
  rcases hq with ⟨id, rfl, hkey⟩ | ⟨u, _, hkey⟩
  · have hne : (normalize id == normalize identifier) = false := hs
    rw [hk.codeKey_injective hkey, beq_self_eq_true] at hne
    cases hne
  · exact hk.codeKey_ne_accessKey _ u hkey

/-- No question of an act that does not confirm the code removes the entry that waits for it. -/
theorem ne_delete_of_mayAsk (hk : s.HasDefaultKeys) {a : Act} {q : Ask}
    (hn : a.answers identifier e.value = false) (hq : a.MayAsk s w q)
    (he : w.cache.find? (challengeKey s identifier) = some e) :
    q ≠ .cache (.delete (challengeKey s identifier)) := by
  rintro rfl
  rcases hq with ⟨id, c, e', rfl, hkey, he', hvalue⟩ | ⟨u, hkey⟩
  · rw [he] at he'
    cases he'
    have hne : (normalize id == normalize identifier && normalize c == e.value) = false := hn
    rw [hk.codeKey_injective hkey, hvalue, beq_self_eq_true, beq_self_eq_true] at hne
    cases hne
  · exact hk.codeKey_ne_accessKey _ u hkey

/-- An entry waits until its time is over, as long as it is neither replaced nor removed. -/
theorem Awaits.next (hk : s.HasDefaultKeys) (ha : Awaits s identifier e w) {h : Happening}
    (hs : h.sends identifier = false) (hn : h.answers identifier e.value = false)
    (hover : w.ticks < e.expiresAt) : Awaits s identifier e (h.next s w) := by
  refine ⟨h.faults_next ha.faults, ?_⟩
  cases h with
  | pass => exact ha.entry
  | act cancelled a =>
    refine (a.keeps hk ha.faults (I := fun w => w.ticks < e.expiresAt ∧
      w.cache.find? (challengeKey s identifier) = some e) (fun w q x w' hi hq ht => ?_)
      ⟨hover, ha.entry⟩).2
    refine ⟨by rw [ht.clocks.2]; exact hi.1, ?_⟩
    exact ht.find?_of_live (ne_set_of_mayAsk hk hs hq) (ne_delete_of_mayAsk hk hn hq hi.2) hi.1 hi.2

theorem Awaits.after (hk : s.HasDefaultKeys) (ha : Awaits s identifier e w)
    {history : List Happening}
    (hspared : ∀ h ∈ history, h.sends identifier = false ∧ h.answers identifier e.value = false)
    (hover : (after s w history).ticks < e.expiresAt) :
    Awaits s identifier e (after s w history) := by
  induction history generalizing w with
  | nil => exact ha
  | cons h later ih =>
    obtain ⟨hs, hn⟩ := hspared h (.head _)
    have hle := ticks_le_after (s := s) ha.faults (h :: later)
    have hnext := ha.next hk hs hn (Nat.lt_of_le_of_lt hle hover)
    exact ih hnext (fun h' hm => hspared h' (.tail _ hm)) hover

/-- Where nothing waits, nothing waits until a code is sent. -/
theorem absent_after (hk : s.HasDefaultKeys) (hf : w.faults = []) {history : List Happening}
    (hs : ∀ h ∈ history, h.sends identifier = false)
    (hnone : w.cache.find? (challengeKey s identifier) = none) :
    (after s w history).cache.find? (challengeKey s identifier) = none := by
  refine after_keeps_asked hk hf (I := fun w => w.cache.find? (challengeKey s identifier) = none)
    (fun cancelled a hm w q x w' hi hq ht => ?_) (fun _ _ _ h => h) hnone
  exact ht.find?_of_none (ne_set_of_mayAsk hk (hs _ hm) hq) hi

/-- Nothing waits any more once a code has been taken. -/
theorem absent_of_accepted (hk : s.HasDefaultKeys) (ha : Awaits s identifier e w)
    (hover : w.ticks < e.expiresAt)
    (haccepted : IsAccepted (w.run false (confirmCode s identifier code).run).1) :
    (w.run false (confirmCode s identifier code).run).2.faults = [] ∧
      (w.run false (confirmCode s identifier code).run).2.cache.find?
        (challengeKey s identifier) = none := by
  obtain ⟨hid, hcode, hvalue⟩ := (isAccepted_confirmCode hk ha hover).1 haccepted
  rw [run_confirmCode ha hover hid hcode, if_pos hvalue]
  let w₁ : World := { w with cache := w.cache.erase (challengeKey s identifier) }
  have hnone : w₁.cache.find? (challengeKey s identifier) = none :=
    (Cache.Memory.find?_erase _ _ _).trans (if_pos rfl)
  have hserves : Minting s (.call .purge) True w₁ w₁ (signInByPhone s (normalize identifier)) _ :=
    signInByPhone_serves hk (normalize identifier) (.refl s w₁ none)
  refine Dialog.run_keeps (I := fun w : World => w.faults = [] ∧
    w.cache.find? (challengeKey s identifier) = none) (fun x hx hi => ?_) ⟨ha.faults, hnone⟩
  have ht := World.turn_answer false hi.1 x.2
  obtain ⟨_, hq⟩ := hserves.holds.of_mem_asked (World.turn_answer_kept false) ha.faults x hx
  exact ⟨ht.faults hi.1, ht.find?_of_none (ne_set_of_mayAsk hk rfl hq) hi.2⟩

/-! ## The delivered code -/

/-- To an identifier that is blank nothing is delivered. -/
theorem deliveries_sendCode_of_blank (hid : (normalize identifier).isEmpty = true) :
    w.deliveries false (sendCode s identifier).run = [] := by
  unfold sendCode
  dsimp only
  rw [hid]
  rfl

/-- **The delivered code.** Whatever happens within the lifetime of a challenge, but for other codes
that are sent to its identifier and the code itself that is confirmed: the code that has been handed
over is taken, under every spelling of the identifier, exactly if a fixed code has been chosen in
normal form. Once it has been taken, it is not taken again until the next code is sent. -/
theorem delivered_code_accepted_iff (hk : s.HasDefaultKeys) (hf : w.faults = [])
    (hd : w.DrawsCodes) {identifier' id : String}
    (hid : normalize identifier' = normalize identifier)
    (hdelivered : (id, code) ∈ w.deliveries false (sendCode s identifier).run)
    (between : List Happening)
    (hbetween : ∀ h ∈ between, h.sends identifier = false ∧ h.answers identifier code = false)
    (hover : (after s (w.run false (sendCode s identifier).run).2 between).ticks <
      w.ticks + Settings.codeLifetime.nanos) :
    let w₁ := after s (w.run false (sendCode s identifier).run).2 between
    let confirmed := w₁.run false (confirmCode s identifier' code).run
    (IsAccepted confirmed.1 ↔
      ∀ fixed, fixedCode? s.fixedCode = some fixed → normalize fixed = fixed) ∧
    (IsAccepted confirmed.1 → ∀ later : List Happening,
      (∀ h ∈ later, h.sends identifier = false) →
      ((after s confirmed.2 later).run false (confirmCode s identifier' code).run).1 =
        .error .codeInvalidOrExpired) := by
  intro w₁ confirmed
  have hidentifier : (normalize identifier).isEmpty = false := by
    rw [Bool.eq_false_iff]
    intro hblank
    rw [deliveries_sendCode_of_blank hblank] at hdelivered
    cases hdelivered
  obtain ⟨hsent, hawaits⟩ := sendCode_delivers (s := s) hf hidentifier
  rw [hsent, List.mem_singleton] at hdelivered
  obtain ⟨rfl, rfl⟩ := Prod.mk.inj hdelivered
  have hkey : challengeKey s identifier' = challengeKey s identifier := challengeKey_congr hid
  have hwaiting := hawaits.after hk hbetween hover
  have ha : Awaits s identifier' ⟨nextCode s w, w.ticks + Settings.codeLifetime.nanos⟩ w₁ :=
    ⟨hwaiting.faults, by rw [hkey]; exact hwaiting.entry⟩
  have haccepted : IsAccepted confirmed.1 ↔ _ := isAccepted_confirmCode hk ha hover
  constructor
  · rw [← normalize_nextCode hd]
    refine haccepted.trans ⟨fun h => h.2.2.symm, fun h => ⟨?_, ?_, h.symm⟩⟩
    · rw [hid]
      exact hidentifier
    · rw [h]
      exact isEmpty_nextCode hd
  · intro h later hlater
    obtain ⟨hid', hcode, _⟩ := haccepted.1 h
    obtain ⟨hfaults, hnone⟩ := absent_of_accepted hk ha hover h
    rw [hkey] at hnone
    have habsent := absent_after hk hfaults hlater hnone
    rw [← hkey] at habsent
    exact run_confirmCode_of_none (faults_after hfaults later) hid' hcode habsent

/-- A wrong code is confirmed, and a second passes. -/
def sampleWait : List Happening :=
  [.act false (.call (.confirmCode "1" "9999")), .pass 1000000000 1000000000]

/-- A drawn code is taken a second later, with blanks around the identifier, and not twice. -/
theorem sampleCode_is_accepted :
    let w := after sampleSettings (sampleWorld.run false (sendCode sampleSettings "1").run).2
      sampleWait
    let confirmed := w.run false (confirmCode sampleSettings " 1 " "0000").run
    IsAccepted confirmed.1 ∧
      (confirmed.2.run false (confirmCode sampleSettings " 1 " "0000").run).1 =
        .error .codeInvalidOrExpired := by
  intro w confirmed
  have hzeros : codeOfBytes [0, 0, 0, 0] = "0000" := by decide +kernel
  have hdraws : sampleWorld.DrawsCodes := fun _ => ⟨[0, 0, 0, 0], by decide, hzeros.symm⟩
  have hid : normalize " 1 " = normalize "1" := by decide +kernel
  have hdelivered : ("1", "0000") ∈
    sampleWorld.deliveries false (sendCode sampleSettings "1").run := by decide +kernel
  have hwait : ∀ h ∈ sampleWait, h.sends "1" = false ∧ h.answers "1" "0000" = false := by
    decide +kernel
  have h := delivered_code_accepted_iff sampleSettings_hasDefaultKeys rfl hdraws hid hdelivered
    sampleWait hwait (by decide +kernel)
  have haccepted : IsAccepted confirmed.1 := h.1.2 nofun
  have honce := h.2 haccepted [] (List.forall_mem_nil _)
  rw [after_nil] at honce
  exact ⟨haccepted, honce⟩

/-- The small world's settings with a fixed code in upper case. -/
def sampleFixed : Settings := { sampleSettings with fixedCode := some "AB" }

/-- The fixed code is delivered, and is refused when it is confirmed. -/
theorem sampleFixed_is_refused :
    let sent := sampleWorld.run false (sendCode sampleFixed "1").run
    sent.1 = .ok () ∧
      sampleWorld.deliveries false (sendCode sampleFixed "1").run = [("1", "AB")] ∧
      (sent.2.run false (confirmCode sampleFixed "1" "AB").run).1 = .error .codeMismatch := by
  intro sent
  exact ⟨by decide +kernel, by decide +kernel, by decide +kernel⟩

end Session

end SignIn
