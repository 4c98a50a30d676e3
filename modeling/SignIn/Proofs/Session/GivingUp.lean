-- What comes of an operation whose caller has given up before it begins. None
-- of its calls gets as far as the store or the cache, no code is handed over,
-- and it fails: because of the giving up, or over what it was given, if that
-- shows before the first call.
import SignIn.Cache.Remote
import SignIn.Store.Tables
import SignIn.Proofs.Session.Acts

namespace SignIn

/-- Whether the failure lies in what the operation was given. -/
def AuthError.isOfInput : AuthError → Bool
  | .validation _ | .parse _ | .invalidToken _ | .tokenOwnership => true
  | _ => false

/-- Whether the question is a call to the store or the cache. -/
def Ask.isCall : Ask → Bool
  | .store _ | .cache _ => true
  | _ => false

/-- Whether the question hands over a code. -/
def Ask.isDelivery : Ask → Bool
  | .deliver _ _ => true
  | _ => false

namespace Session

open Operation
open Dialog (Ensures Holds ensures_pure ensures_bind ensures_failIf ensures_ofExcept)

variable {s : Settings} {α β σ : Type}

/-! ## Calls that are refused -/

/-- How questions turn out where calls are refused; it is noted whether one has been made. -/
inductive Refused : Bool → (q : Ask) → q.Answer → Bool → Prop
  | store (called : Bool) (q : Store.Request) : Refused called (.store q) (.error .cancelled) true
  | cache (called : Bool) (q : Cache.Request) : Refused called (.cache q) (.error .cancelled) true
  | aside (called : Bool) {q : Ask} (hq : q.isCall = false) (x : q.Answer) :
    Refused called q x called

/-- Until a call has been made, anything is asked but a delivery, and nothing after it. -/
def StillAsks (called : Bool) (q : Ask) : Prop := called = false ∧ q.isDelivery = false

/-- The failure is of the giving up if a call has been made, and else of the input. -/
def Excused (e : AuthError) (called : Bool) : Prop :=
  (if called = true then e.isCancelled else e.isOfInput) = true

/-- An operation that has made no call yet does not succeed. -/
abbrev GivesUp (op : Operation α) : Prop :=
  Ensures Refused StillAsks false op (fun _ _ => False) Excused

/-- A part that makes no call leaves things as they are, or fails over the input. -/
abbrev Checks (op : Operation α) : Prop :=
  Ensures Refused StillAsks false op (fun _ called => called = false) Excused

theorem GivesUp.bind {op : Operation α} (h : GivesUp op) (f : α → Operation β) :
    GivesUp (op >>= f) :=
  ensures_bind (h.imp (fun _ _ hf => hf.elim) fun _ _ he => he)

theorem Checks.bind {op : Operation α} {f : α → Operation β} {post : β → Bool → Prop}
    (h : Checks op) (hf : ∀ a, Ensures Refused StillAsks false (f a) post Excused) :
    Ensures Refused StillAsks false (op >>= f) post Excused := by
  refine ensures_bind (h.imp (fun a called hc => ?_) fun _ _ he => he)
  rw [hc]
  exact hf a

theorem storeOr_givesUp {onError : StoreError → AuthError}
    (h : (onError .cancelled).isCancelled = true) (q : Store.Request) :
    GivesUp (storeOr onError q) := by
  refine ensures_storeOr ⟨rfl, rfl⟩ (fun a called ht => ?_) fun e called ht => ?_
  · cases ht with
    | aside hq => cases hq
  · cases ht with
    | store => exact h
    | aside hq => cases hq

theorem cacheOr_givesUp {onError : CacheError → AuthError}
    (h : (onError .cancelled).isCancelled = true) (q : Cache.Request) :
    GivesUp (cacheOr onError q) := by
  refine ensures_cacheOr ⟨rfl, rfl⟩ (fun a called ht => ?_) fun e called ht => ?_
  · cases ht with
    | aside hq => cases hq
  · cases ht with
    | cache => exact h
    | aside hq => cases hq

theorem store_givesUp (q : Store.Request) : GivesUp (store q) := storeOr_givesUp rfl q

theorem cache_givesUp (q : Cache.Request) : GivesUp (cache q) := cacheOr_givesUp rfl q

/-! ## Checks before the first call -/

theorem ask_checks {q : Ask} (hq : q.isCall = false) (hd : q.isDelivery = false) :
    Checks (ask q) := by
  refine ensures_ask ⟨rfl, hd⟩ fun x called ht => ?_
  cases ht with
  | store | cache => cases hq
  | aside => rfl

theorem failIf_checks {c : Bool} {e : AuthError} (he : e.isOfInput = true) :
    Checks (failIf c e) := ensures_failIf (fun _ => he) fun _ => rfl

theorem ofExcept_checks {x : Except AuthError α} (hx : ∀ e, x = .error e → e.isOfInput = true) :
    Checks (ofExcept x : Operation α) := ensures_ofExcept (fun _ _ => rfl) hx

theorem isOfInput_of_refused {x : Except Token.Refusal α} {e : AuthError}
    (h : x.mapError refused = .error e) : e.isOfInput = true := by
  cases x with
  | ok => cases h
  | error => cases h; rfl

theorem verify_checks (kind : TokenKind) (token : String) : Checks (verify s kind token) := by
  unfold verify
  refine (ofExcept_checks fun _ => isOfInput_of_refused).bind fun signed => ?_
  refine (ask_checks (q := .clock) rfl rfl).bind fun now => ?_
  exact ofExcept_checks fun _ => isOfInput_of_refused

theorem isOfInput_of_parseBirthDate {text pattern : String} {e : AuthError}
    (h : parseBirthDate text pattern = .error e) : e.isOfInput = true := by
  unfold parseBirthDate at h
  split at h
  · cases h
  · cases h
    rfl

theorem newCode_checks (fixed : Option String) : Checks (newCode fixed) := by
  unfold newCode
  split
  · exact ensures_pure rfl
  · exact ask_checks (q := .freshCode) rfl rfl

/-! ## Operations that give up -/

theorem createPair_givesUp (u : Int) (email : String) (now : Time.Instant) :
    GivesUp (createPair s u email now) := (store_givesUp _).bind _

theorem register_givesUp (r : Registration) : GivesUp (register s r) := by
  unfold register
  refine (failIf_checks rfl).bind fun _ => (failIf_checks rfl).bind fun _ => ?_
  refine (ofExcept_checks fun _ => isOfInput_of_parseBirthDate).bind fun birthDate => ?_
  refine (ask_checks (q := .freshSalt) rfl rfl).bind fun salt => ?_
  exact (store_givesUp _).bind _

theorem login_givesUp (email password : String) : GivesUp (login s email password) :=
  (store_givesUp _).bind _

theorem refresh_givesUp (token : String) : GivesUp (refresh s token) := by
  unfold refresh
  refine (verify_checks .refresh token).bind fun claims => ?_
  exact (ask_checks (q := .clock) rfl rfl).bind fun now => (store_givesUp _).bind _

theorem logout_givesUp (u : Int) (token : String) : GivesUp (logout s u token) := by
  unfold logout
  refine (failIf_checks rfl).bind fun _ => ?_
  refine (verify_checks .refresh (Text.trim token)).bind fun claims => ?_
  exact (failIf_checks rfl).bind fun _ => (store_givesUp _).bind _

theorem sendCode_givesUp (identifier : String) : GivesUp (sendCode s identifier) := by
  unfold sendCode
  refine (failIf_checks rfl).bind fun _ => (newCode_checks s.fixedCode).bind fun code => ?_
  exact (cache_givesUp _).bind _

theorem confirmCode_givesUp (identifier code : String) :
    GivesUp (confirmCode s identifier code) := by
  unfold confirmCode
  exact (failIf_checks rfl).bind fun _ => (cache_givesUp _).bind _

theorem Call.operation_givesUp (c : Call) : GivesUp (c.operation s) := by
  cases c with
  | register r => exact (register_givesUp r).bind _
  | login email password => exact (login_givesUp email password).bind _
  | refresh token => exact (refresh_givesUp token).bind _
  | logout u token => exact (logout_givesUp u token).bind _
  | sendCode identifier => exact (sendCode_givesUp identifier).bind _
  | confirmCode identifier code => exact (confirmCode_givesUp identifier code).bind _
  | revokeAll u => exact ((store_givesUp (.revokeAll u)).bind _).bind _
  | deleteAccount u => exact ((store_givesUp (.softDelete u)).bind _).bind _
  | purge => exact (store_givesUp (.purge s.retention)).bind _
  | profile u => exact ((store_givesUp (.findUser u)).bind _).bind _
  | emailExists email => exact (store_givesUp (.emailExists (Text.normalize email))).bind _
  | isAlive u id => exact ((cache_givesUp (.timeLeft (s.accessKey u))).bind _).bind _

theorem Act.operation_givesUp (a : Act) : GivesUp (a.operation s) := by
  cases a with
  | call c => exact c.operation_givesUp
  | mint u email now => exact (createPair_givesUp u email now).bind _

/-! ## Those who refuse -/

/-- In states of a kind, whoever answers refuses all calls and stays as he is; and with any other
question but a delivery the state stays of the kind. -/
structure Refuses (answer : σ → (q : Ask) → q.Answer × σ) (Kept : σ → Prop) : Prop where
  store : ∀ t q, Kept t → answer t (.store q) = (.error .cancelled, t)
  cache : ∀ t q, Kept t → answer t (.cache q) = (.error .cancelled, t)
  aside : ∀ t q, Kept t → q.isCall = false → q.isDelivery = false → Kept (answer t q).2

/-- An operation has come to nothing: it fails, with an excuse for it, everything is kept, no code
has been handed over, and nothing has been asked behind a call. -/
structure ComesToNothing (answer : σ → (q : Ask) → q.Answer × σ) (Kept : σ → Prop) (t : σ)
    (p : Program (Except AuthError α)) : Prop where
  failed : ∃ e, (Dialog.run answer t p).1 = .error e ∧
    Excused e ((Dialog.asked answer t p).any fun x => x.2.isCall)
  kept : Kept (Dialog.run answer t p).2
  undelivered : ∀ x ∈ Dialog.asked answer t p, x.2.isDelivery = false
  stops : (Dialog.asked answer t p).Pairwise fun x _ => x.2.isCall = false

variable {answer : σ → (q : Ask) → q.Answer × σ} {Kept : σ → Prop} {t : σ}

theorem Refuses.refused (h : Refuses answer Kept) (ht : Kept t) (called : Bool) (q : Ask) :
    Refused called q (answer t q).1 (called || q.isCall) := by
  cases q with
  | store q =>
    rw [h.store t q ht, Ask.isCall, Bool.or_true]
    exact .store called q
  | cache q =>
    rw [h.cache t q ht, Ask.isCall, Bool.or_true]
    exact .cache called q
  | clock | deliver | freshId | freshCode | freshSalt =>
    change Refused called _ _ (called || false)
    rw [Bool.or_false]
    exact .aside called rfl _

theorem Refuses.keeps (h : Refuses answer Kept) (ht : Kept t) {q : Ask}
    (hq : q.isDelivery = false) : Kept (answer t q).2 := by
  cases q with
  | store q =>
    rw [h.store t q ht]
    exact ht
  | cache q =>
    rw [h.cache t q ht]
    exact ht
  | clock | deliver | freshId | freshCode | freshSalt => exact h.aside t _ ht rfl hq

/-- Behind a call nothing is asked. -/
theorem asked_eq_nil_of_called {d : Program α} {ends : Bool → α → Prop}
    (h : Holds Refused StillAsks ends true d) : Dialog.asked answer t d = [] := by
  cases d with
  | done a => rfl
  | ask q next => cases h.1.1

/-- What a dialog holds to where calls are refused, it holds to with whoever refuses them. -/
theorem Refuses.holds (h : Refuses answer Kept) {d : Program α} {ends : Bool → α → Prop}
    {called : Bool} (hd : Holds Refused StillAsks ends called d) (ht : Kept t) :
    ends (called || (Dialog.asked answer t d).any fun x => x.2.isCall) (Dialog.run answer t d).1 ∧
      Kept (Dialog.run answer t d).2 ∧
      (∀ x ∈ Dialog.asked answer t d, x.2.isDelivery = false) ∧
      (Dialog.asked answer t d).Pairwise fun x _ => x.2.isCall = false := by
  -- Along the dialog `called` says whether a call has been made yet, and `Kept` is the invariant.
  induction d generalizing t called with
  | done a =>
    refine ⟨?_, ht, fun _ hx => ?_, List.Pairwise.nil⟩
    · rw [Dialog.asked, List.any_nil, Bool.or_false]
      exact hd
    · cases hx
  | ask q next ih =>
    have hnext := hd.2 _ _ (h.refused ht called q)
    obtain ⟨hends, hkept, hcodes, hstops⟩ := ih _ hnext (h.keeps ht hd.1.2)
    refine ⟨?_, hkept, ?_, ?_⟩
    · rw [Dialog.asked, List.any_cons, ← Bool.or_assoc]
      exact hends
    · intro x hx
      rcases List.mem_cons.1 hx with rfl | hx
      · exact hd.1.2
      · exact hcodes x hx
    · refine List.pairwise_cons.2 ⟨fun x hx => ?_, hstops⟩
      -- Had it been a call, there would be no `x` behind it.
      cases hcall : q.isCall with
      | false => rfl
      | true =>
        rw [hcall, Bool.or_true] at hnext
        rw [asked_eq_nil_of_called hnext] at hx
        cases hx

theorem Refuses.comesToNothing (h : Refuses answer Kept) (ht : Kept t) {op : Operation α}
    (hop : GivesUp op) : ComesToNothing answer Kept t op.run := by
  obtain ⟨hends, hkept, hcodes, hstops⟩ := h.holds hop.holds ht
  refine ⟨?_, hkept, hcodes, hstops⟩
  rw [Bool.false_or] at hends
  cases hr : (Dialog.run answer t op.run).1 with
  | ok a =>
    rw [hr] at hends
    exact hends.elim
  | error e =>
    rw [hr] at hends
    exact ⟨e, rfl, hends⟩

/-! ## The world -/

/-- Neither store nor cache has changed, no code has been delivered, and no failure is set. -/
structure Unmoved (w w' : World) : Prop where
  store : w'.store = w.store
  cache : w'.cache = w.cache
  outbox : w'.outbox = w.outbox
  faults : w'.faults = []

theorem world_refuses (w : World) : Refuses (World.answer true) (Unmoved w) where
  store := fun _ q h => World.answer_store_cancelled h.faults q
  cache := fun _ q h => World.answer_cache_cancelled h.faults q
  aside := by
    intro w' q h hcall hdelivery
    cases q with
    | store | cache => cases hcall
    | deliver => cases hdelivery
    | clock | freshId | freshCode | freshSalt => exact ⟨h.store, h.cache, h.outbox, h.faults⟩

/-- **Who has given up gets nothing and changes nothing.** The tables, the server of the cache and
the world refuse each of his calls and stay as they are, whatever is asked for; and with whoever
refuses his calls, every act comes to nothing. -/
theorem given_up_comes_to_nothing (s : Settings) :
    (∀ (p : Store.Tables.Pool) (q : Store.Request),
      p.answer true q = (.error (.failure .cancelled), p)) ∧
    (∀ {σ : Type} (server : σ → List String → Cache.Remote.Reply × σ) (t : σ) (q : Cache.Request),
      Cache.Remote.ask server true t q = (.error .cancelled, t)) ∧
    (∀ w : World, w.faults = [] →
      (∀ q, w.answer true (.store q) = (.error .cancelled, w)) ∧
      (∀ q, w.answer true (.cache q) = (.error .cancelled, w)) ∧
      ∀ a : Act, ComesToNothing (World.answer true) (Unmoved w) w (a.program s)) ∧
    ∀ {σ : Type} (answer : σ → (q : Ask) → q.Answer × σ) (Kept : σ → Prop), Refuses answer Kept →
      ∀ (t : σ) (a : Act), Kept t → ComesToNothing answer Kept t (a.program s) := by
  refine ⟨fun p q => rfl, fun server t q => rfl, fun w hf => ⟨?_, ?_, fun a => ?_⟩, ?_⟩
  · exact World.answer_store_cancelled hf
  · exact World.answer_cache_cancelled hf
  · exact (world_refuses w).comesToNothing ⟨rfl, rfl, rfl, hf⟩ a.operation_givesUp
  · exact fun answer Kept h t a ht => h.comesToNothing ht a.operation_givesUp

/-- Tables and the server of a cache that answer somebody who has given up, with the words that the
server has been sent. -/
def sampleRemote : Store.Tables.Pool × List (List String) → (q : Ask) →
    q.Answer × (Store.Tables.Pool × List (List String))
  | (p, sent), .store q =>
    match p.answer true q with
    | (.ok a, p) => (.ok a, p, sent)
    | (.error (.failure e), p) => (.error e, p, sent)
    | (.error .brokenOff, p) => (.error (.database ""), p, sent)
  | (p, sent), .cache q =>
    let (a, sent) := Cache.Remote.ask (fun sent words => (.nil, sent ++ [words])) true sent q
    (a, p, sent)
  | t, .clock => (.epoch, t)
  | t, .deliver _ _ => (.ok (), t)
  | t, .freshId | t, .freshCode => ("", t)
  | t, .freshSalt => ([], t)

/-- A code is sent to a phone. Who has given up confirms it in vain, and the challenge stays; and
over the tables he signs in in vain, and nothing is sent to them. -/
theorem sampleActs_come_to_nothing :
    let w := (sampleWorld.run false (Call.program sampleSettings (.sendCode "1"))).2
    let confirmation := Act.call (.confirmCode "1" "0000")
    let p : Store.Tables.Pool := ⟨⟨[], []⟩, false⟩
    let login := Act.call (.login "user@example.com" "secret")
    (w.run true (confirmation.program sampleSettings)).1 = .error (.cache .cancelled) ∧
      (w.run true (confirmation.program sampleSettings)).2.cache = w.cache ∧
      (Dialog.run sampleRemote (p, []) (login.program sampleSettings)).2 = (p, []) := by
  intro w confirmation p login
  obtain ⟨htables, hserver, hworld, hall⟩ := given_up_comes_to_nothing sampleSettings
  have hremote : Refuses sampleRemote (· = (p, [])) := by
    refine ⟨?_, ?_, ?_⟩
    · rintro _ q rfl
      rfl
    · rintro _ q rfl
      rfl
    · rintro _ q rfl hcall hdelivery
      cases q with
      | store | cache => cases hcall
      | deliver => cases hdelivery
      | clock | freshId | freshCode | freshSalt => rfl
  have hf : w.faults = [] := by decide +kernel
  obtain ⟨_, _, hacts⟩ := hworld w hf
  exact ⟨rfl, (hacts confirmation).kept.cache,
    (hall sampleRemote _ hremote (p, []) login rfl).kept⟩

end Session

end SignIn
