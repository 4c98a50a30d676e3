-- How operations run while no call fails: what holds of a token, a marker or
-- an account is what the operation says, and a registration that nothing
-- speaks against mints a pair.
import SignIn.Proofs.Session.Markers

namespace SignIn.Session

open Operation
open Dialog (run_bind_of_ok)
open Text (normalize)

variable {s : Settings} {w : World}

/-! ## Checking -/

/-- Verifying a token changes nothing. -/
theorem run_verify_eq (cancelled : Bool) (kind : TokenKind) (token : String) :
    w.run cancelled (verify s kind token).run =
      ((Token.verify token kind (Token.secretOf s kind) w.now.unixSeconds).mapError refused,
        w) := by
  unfold Token.verify verify World.run
  cases Token.Signed.ofToken token (Token.secretOf s kind) with
  | error r => rfl
  | ok signed =>
    have h₁ : Dialog.run (World.answer cancelled) w (ofExcept ((Except.ok signed :
        Except Token.Refusal Token.Signed).mapError refused) : Operation _).run =
        (.ok signed, w) := rfl
    have h₂ : Dialog.run (World.answer cancelled) w Operation.clock.run = (.ok w.now, w) := rfl
    rw [Dialog.run_bind_of_ok _ h₁, Dialog.run_bind_of_ok _ h₂]
    change _ = ((signed.accept kind w.now.unixSeconds).mapError refused, w)
    cases signed.accept kind w.now.unixSeconds <;> rfl

theorem run_verify_of_ok {cancelled : Bool} {kind : TokenKind} {token : String} {c : Claims}
    (h : Token.verify token kind (Token.secretOf s kind) w.now.unixSeconds = .ok c) :
    w.run cancelled (verify s kind token).run = (.ok c, w) := by
  rw [run_verify_eq, h]
  rfl

theorem run_verify_of_error {cancelled : Bool} {kind : TokenKind} {token : String}
    {r : Token.Refusal}
    (h : Token.verify token kind (Token.secretOf s kind) w.now.unixSeconds = .error r) :
    w.run cancelled (verify s kind token).run = (.error (refused r), w) := by
  rw [run_verify_eq, h]
  rfl

/-- While a marker is there, it decides which token is alive. -/
theorem run_isAlive {userId : Int} {e : Cache.Entry} (id : String)
    (he : w.cache.find? (s.accessKey userId) = some e) (hover : w.ticks < e.expiresAt)
    (hf : w.faults = []) :
    w.run false (isAlive s userId id).run = (.ok (e.value == id), w) := by
  have hlive := Cache.Memory.live_of_find? he hover
  have hpos : (⟨e.expiresAt - w.ticks⟩ : Time.Duration).nanos ≠ 0 := by
    change e.expiresAt - w.ticks ≠ 0
    omega
  have hleft : w.cache.answer w.ticks (.timeLeft (s.accessKey userId)) =
      (some ⟨e.expiresAt - w.ticks⟩, w.cache) := by
    change w.cache.timeLeft w.ticks (s.accessKey userId) = _
    unfold Cache.Memory.timeLeft
    rw [hlive]
    dsimp only
    rw [Option.map_some, Option.filter_some, if_pos (bne_iff_ne.2 hpos)]
  have hget : w.cache.answer w.ticks (.get (s.accessKey userId)) = (some e.value, w.cache) := by
    change w.cache.get w.ticks (s.accessKey userId) = _
    unfold Cache.Memory.get
    rw [hlive]
    rfl
  have h₁ : Dialog.run (World.answer false) w
      (Operation.cache (.timeLeft (s.accessKey userId))).run =
      (.ok (some ⟨e.expiresAt - w.ticks⟩), w) := World.run_cacheOr hf hleft
  have h₂ : Dialog.run (World.answer false) w (Operation.cache (.get (s.accessKey userId))).run =
      (.ok (some e.value), w) := World.run_cacheOr hf hget
  unfold isAlive World.run
  dsimp only
  rw [Dialog.run_bind_of_ok _ h₁]
  dsimp only
  rw [if_neg hpos]
  exact Dialog.run_bind_of_ok (α := Option String) _ h₂

/-- Without a marker that has time left no token is alive. A marker whose time is over may be
dropped on the way. -/
theorem run_isAlive_sheds {userId : Int} (id : String)
    (h : ∀ e, w.cache.find? (s.accessKey userId) = some e → ¬ w.ticks < e.expiresAt)
    (hf : w.faults = []) : ∃ cache, w.cache.Sheds w.ticks cache ∧
      w.run false (isAlive s userId id).run = (.ok false, { w with cache := cache }) := by
  have hnone : (w.cache.timeLeft w.ticks (s.accessKey userId)).1 = none := by
    have hlive : (w.cache.live w.ticks (s.accessKey userId)).1 = none := by
      refine Option.eq_none_iff_forall_ne_some.2 fun e he => ?_
      obtain ⟨hfound, hover⟩ := Cache.Memory.find?_of_live he
      exact h e hfound hover
    unfold Cache.Memory.timeLeft
    dsimp only
    rw [hlive]
    rfl
  have h₁ : Dialog.run (World.answer false) w
      (Operation.cache (.timeLeft (s.accessKey userId))).run = (.ok none, _) :=
    World.run_cacheOr hf (Prod.ext hnone rfl)
  refine ⟨(w.cache.live w.ticks (s.accessKey userId)).2,
    (Cache.Memory.Sheds.refl w.cache w.ticks).live _, ?_⟩
  unfold isAlive World.run
  dsimp only
  rw [Dialog.run_bind_of_ok _ h₁]
  rfl

theorem run_isAlive_of_over {userId : Int} (id : String)
    (h : ∀ e, w.cache.find? (s.accessKey userId) = some e → ¬ w.ticks < e.expiresAt)
    (hf : w.faults = []) : (w.run false (isAlive s userId id).run).1 = .ok false := by
  obtain ⟨cache, _, hrun⟩ := run_isAlive_sheds (s := s) id h hf
  rw [hrun]

/-- A token is alive exactly if a marker that is not over names it. -/
theorem isAlive_iff {userId : Int} {id : String} (hf : w.faults = []) :
    (w.run false (isAlive s userId id).run).1 = .ok true ↔
      ∃ e, w.cache.find? (s.accessKey userId) = some e ∧ e.value = id ∧ w.ticks < e.expiresAt := by
  constructor
  · intro h
    by_cases hlive : ∃ e, w.cache.find? (s.accessKey userId) = some e ∧ w.ticks < e.expiresAt
    · obtain ⟨e, he, hover⟩ := hlive
      rw [run_isAlive id he hover hf] at h
      exact ⟨e, he, eq_of_beq (Except.ok.inj h), hover⟩
    · rw [run_isAlive_of_over id (fun e he hover => hlive ⟨e, he, hover⟩) hf] at h
      cases h
  · rintro ⟨e, he, rfl, hover⟩
    rw [run_isAlive _ he hover hf, beq_self_eq_true]

/-! ## Minting -/

theorem run_permissionsFor (hf : w.faults = []) (role : Option Int) :
    w.run false (permissionsFor role).run = (.ok (w.store.grantedTo role), w) := by
  cases role with
  | none => rfl
  | some role => exact World.run_lookup hf rfl

theorem run_issue {kind : TokenKind} {userId : Int} {email : String} {permissions : List String}
    {now expiresAt : Time.Instant} (h : Token.expiry s kind now = .ok expiresAt) :
    w.run false (issue s kind userId email permissions now).run =
      (.ok (Token.issueUntil s kind userId email permissions now expiresAt w.ids.next.1),
        { w with ids := w.ids.next.2 }) := by
  unfold issue
  rw [h]
  rfl

/-- Issuing takes no look at the wall clock, so it never breaks off. -/
theorem run?_issue (cancelled : Bool) (w : World) (s : Settings) (kind : TokenKind) (userId : Int)
    (email : String) (permissions : List String) (now : Time.Instant) :
    w.run? cancelled (issue s kind userId email permissions now).run =
      some (match Token.expiry s kind now with
        | .ok expiresAt => (.ok (Token.issueUntil s kind userId email permissions now expiresAt
            w.ids.next.1), { w with ids := w.ids.next.2 })
        | .error e => (.error e, w)) := by
  have hstays : w.breaksOff cancelled (issue s kind userId email permissions now).run = false := by
    unfold World.breaksOff issue
    cases Token.expiry s kind now <;> exact Bool.and_false _
  unfold World.run?
  rw [hstays]
  unfold issue
  cases Token.expiry s kind now <;> rfl

theorem run_markLive {userId : Int} {issued : Token.Issued} {now : Time.Instant}
    {left : Time.Duration} (hf : w.faults = []) (h : now.until? issued.expiresAt = some left) :
    w.run false (markLive s userId issued now).run =
      (.ok (), { w with cache := w.cache.set w.ticks (s.accessKey userId) issued.id left }) := by
  have hset : Dialog.run (World.answer false) w (cacheOr markFailed
      (.set (s.accessKey userId) issued.id left)).run =
      (.ok (), { w with cache := w.cache.set w.ticks (s.accessKey userId) issued.id left }) :=
    World.run_cacheOr hf rfl
  unfold markLive
  rw [h]
  exact hset

/-- The pair that signs a user in, and the world when it has been minted. -/
def signedIn (s : Settings) (w : World) (userId : Int) (email : String)
    (permissions : List String) (now accessEnd refreshEnd : Time.Instant) : TokenPair × World :=
  let access := Token.issueUntil s .access userId email permissions now accessEnd w.ids.next.1
  let refresh := Token.issueUntil s .refresh userId "" [] now refreshEnd w.ids.next.2.next.1
  (⟨access.token, refresh.token⟩,
    { w with
      ids := w.ids.next.2.next.2
      store := w.store.putToken w.now userId refresh.token refreshEnd
      cache := w.cache.set w.ticks (s.accessKey userId) access.id s.accessLifetime })

/-- While no call fails, a user that is there is signed in, unless the refresh token is stored
already. -/
theorem run_createPair {userId : Int} {email : String} {now accessEnd refreshEnd : Time.Instant}
    {user : User} (hf : w.faults = []) (hu : w.store.findUser userId = some user)
    (ha : Token.expiry s .access now = .ok accessEnd)
    (hr : Token.expiry s .refresh now = .ok refreshEnd)
    (hnew : w.store.findToken (Token.issueUntil s .refresh userId "" [] now refreshEnd
      w.ids.next.2.next.1).token = none) :
    let st := signedIn s w userId email (w.store.grantedTo user.role) now accessEnd refreshEnd
    w.run false (createPair s userId email now).run = (.ok st.1, st.2) := by
  let w₁ : World := { w with ids := w.ids.next.2 }
  let w₂ : World := { w with ids := w.ids.next.2.next.2 }
  let refresh := Token.issueUntil s .refresh userId "" [] now refreshEnd w.ids.next.2.next.1
  let w₃ : World :=
    { w₂ with store := w.store.putToken w.now userId refresh.token refresh.expiresAt }
  have h₁ : Dialog.run (World.answer false) w (store (.findUser userId)).run =
      (.ok (some user), w) :=
    World.run_lookup hf (by rw [← hu]; rfl)
  have h₂ : Dialog.run (World.answer false) w (permissionsFor user.role).run =
      (.ok (w.store.grantedTo user.role), w) := run_permissionsFor hf user.role
  have h₃ : Dialog.run (World.answer false) w (issueAccess s userId email
      (w.store.grantedTo user.role) now).run = (.ok _, w₁) := run_issue ha
  have h₄ : Dialog.run (World.answer false) w₁ (issueRefresh s userId now).run =
      (.ok refresh, w₂) := run_issue hr
  have h₅ : Dialog.run (World.answer false) w₂ (storeOr storeFailed
      (.createToken userId refresh.token refresh.expiresAt)).run = (.ok (), w₃) := by
    refine World.run_storeOr (w := w₂) hf ?_
    change w.store.createToken w.now userId refresh.token refresh.expiresAt = _
    unfold Store.Memory.createToken
    rw [hnew]
    rfl
  have h₆ : Dialog.run (World.answer false) w₃ (markLive s userId (Token.issueUntil s .access userId
      email (w.store.grantedTo user.role) now accessEnd w.ids.next.1) now).run = (.ok (), _) :=
    run_markLive hf (until?_of_expiry ha)
  unfold createPair World.run
  rw [run_bind_of_ok _ h₁, run_bind_of_ok (a := user) (r := w) _ rfl, run_bind_of_ok _ h₂,
    run_bind_of_ok _ h₃, run_bind_of_ok _ h₄, run_bind_of_ok (α := Unit) _ h₅, run_bind_of_ok _ h₆]
  rfl

/-- The world when an account has been created as a registration asks. -/
def created (w : World) (r : Registration) (birthDate : Time.Date) : World :=
  { w with
    salts := w.salts.next.2
    store := (w.store.createUser w.now (newUser r (normalize r.email) birthDate
      (Password.hash w.salts.next.1 r.password))).2 }

/-- While no call fails, a registration that nothing speaks against signs in a user with the next
id. -/
theorem run_register {r : Registration} {birthDate : Time.Date}
    {accessEnd refreshEnd : Time.Instant} (hn : w.store.Numbered) (hf : w.faults = [])
    (hemail : (normalize r.email).isEmpty = false)
    (hpassword : r.password.isEmpty = false)
    (hbirth : parseBirthDate r.birthDate s.birthDatePattern = .ok birthDate)
    (htaken : w.store.isTaken (normalize r.email) (Text.trim r.phone) = false)
    (ha : Token.expiry s .access w.now = .ok accessEnd)
    (hr : Token.expiry s .refresh w.now = .ok refreshEnd)
    (hnew : w.store.findToken (Token.issueUntil s .refresh (w.store.lastUserId + 1) "" [] w.now
      refreshEnd w.ids.next.2.next.1).token = none) :
    let st := signedIn s (created w r birthDate) (w.store.lastUserId + 1) (normalize r.email)
      (w.store.grantedTo (r.role.or w.store.defaultRole)) w.now accessEnd refreshEnd
    w.run false (register s r).run = (.ok st.1, st.2) := by
  let u := newUser r (normalize r.email) birthDate (Password.hash w.salts.next.1 r.password)
  let w₁ : World := { w with salts := w.salts.next.2 }
  have hfree : w.store.isTaken u.email u.phone = false := htaken
  have hcreate := Store.Memory.createUser_of_free hfree w.now
  have hid : (w.store.createUser w.now u).1 = .ok (w.store.lastUserId + 1) := by rw [hcreate]
  have hsalt : Dialog.run (World.answer false) w (ask .freshSalt).run =
      (.ok w.salts.next.1, w₁) := rfl
  have hstore : Dialog.run (World.answer false) w₁ (store (.createUser u)).run =
      (.ok (w.store.lastUserId + 1), created w r birthDate) :=
    World.run_storeOr (w := w₁) hf (Prod.ext hid rfl)
  have hclock : Dialog.run (World.answer false) (created w r birthDate) clock.run =
      (.ok w.now, created w r birthDate) := rfl
  have htokens : (created w r birthDate).store.tokens = w.store.tokens := by
    change (w.store.createUser w.now u).2.tokens = _
    rw [hcreate]
  have hgranted : (created w r birthDate).store.grantedTo (w.store.newRow w.now u).user.role =
      w.store.grantedTo (r.role.or w.store.defaultRole) := by
    unfold Store.Memory.grantedTo Store.Memory.permissionsOf
    rw [show (created w r birthDate).store.roles = w.store.roles from
      Store.Memory.roles_createUser ..]
    rfl
  have hfree : (created w r birthDate).store.findToken (Token.issueUntil s .refresh
      (w.store.lastUserId + 1) "" [] w.now refreshEnd w.ids.next.2.next.1).token = none := by
    unfold Store.Memory.findToken
    rw [htokens]
    exact hnew
  have hpair : (created w r birthDate).run false
      (createPair s (w.store.lastUserId + 1) (normalize r.email) w.now).run = (.ok _, _) :=
    run_createPair hf (hn.findUser_created hid) ha hr hfree
  rw [hgranted] at hpair
  unfold register World.run
  rw [run_bind_of_ok _ (Dialog.run_failIf hemail), run_bind_of_ok _ (Dialog.run_failIf hpassword),
    hbirth,
    run_bind_of_ok (a := birthDate) (r := w) _ rfl, run_bind_of_ok _ hsalt]
  refine (run_bind_of_ok (α := Int) _ hstore).trans ?_
  rw [run_bind_of_ok _ hclock]
  exact hpair

/-- What is made of the result of an operation changes only that. -/
theorem run_map {α β : Type} (f : α → β) (w : World) (op : Operation α) :
    w.run false (do return f (← op) : Operation β).run =
      ((w.run false op.run).1.map f, (w.run false op.run).2) := by
  change Dialog.run (World.answer false) w (op.run >>= _) = _
  rw [Dialog.run_bind]
  unfold World.run
  cases (Dialog.run (World.answer false) w op.run).1 <;> rfl

/-- A call to register answers as the registration does. -/
theorem run_call_register (w : World) (r : Registration) :
    w.run false (Call.program s (.register r)) = ((w.run false (register s r).run).1.map some,
      (w.run false (register s r).run).2) :=
  run_map some w (register s r)

/-- The pair that a registration mints is the latest one. -/
theorem apply_register {r : Registration} {pair : TokenPair} {minted : List TokenPair}
    (h : (w.run false (register s r).run).1 = .ok pair) :
    Event.apply s (w, minted) (.call (.register r)) =
      ((w.run false (register s r).run).2, pair :: minted) := by
  have hcall := run_call_register (s := s) w r
  rw [h] at hcall
  unfold Event.apply
  dsimp only
  rw [hcall]
  dsimp only [Except.map, mintedBy, Option.toList, List.singleton_append]

/-! ## The sample registration -/

/-- The sample registration with another password. -/
def registrationWith (phone password : String) : Registration :=
  { sampleRegistration phone with password := password }

/-- The birth date of the sample registration. -/
def sampleBirthDate : Time.Date := ⟨1990, 12, 10, by decide, by decide, by decide⟩

theorem parseBirthDate_sample :
    parseBirthDate "10-12-1990" sampleSettings.birthDatePattern = .ok sampleBirthDate := by
  have htrim : Text.trim "10-12-1990" = "10-12-1990" := by decide +kernel
  have hread : (Time.Date.parse "%d-%m-%Y" "10-12-1990").toOption = some sampleBirthDate := by
    decide +kernel
  have hparse : Time.Date.parse "%d-%m-%Y" "10-12-1990" = .ok sampleBirthDate := by
    revert hread
    cases Time.Date.parse "%d-%m-%Y" "10-12-1990" with
    | ok date => exact fun h => congrArg Except.ok (Option.some.inj h)
    | error e => exact nofun
  unfold parseBirthDate
  rw [htrim, show sampleSettings.birthDatePattern = "%d-%m-%Y" from rfl, hparse]

/-- The tokens that a user gets who registers like the sample, with the ids that they bear. -/
def samplePair (userId : Int) (accessId refreshId : String) : TokenPair :=
  ⟨Token.sign (Token.secretOf sampleSettings .access) (sampleClaims userId accessId),
    Token.sign (Token.secretOf sampleSettings .refresh) (sampleRefreshClaims userId refreshId)⟩

/-- Whoever registers like the sample at the epoch, with any phone and any password, gets such
tokens, and the refresh token is stored. -/
theorem run_sampleRegistration (phone : String) {password : String} {u : Int} {id id' : String}
    (hn : w.store.Numbered) (hf : w.faults = []) (hnow : w.now = Time.Instant.epoch)
    (hu : w.store.lastUserId + 1 = u) (hid : w.ids.next.1 = id) (hid' : w.ids.next.2.next.1 = id')
    (hpassword : password.isEmpty = false)
    (htaken : w.store.isTaken "user@example.com" (Text.trim phone) = false)
    (hgranted : w.store.grantedTo w.store.defaultRole = ["sessions.revoke.any"])
    (hnew : w.store.findToken (samplePair u id id').refresh = none) :
    let st := w.run false (register sampleSettings (registrationWith phone password)).run
    st.1 = .ok (samplePair u id id') ∧
      st.2.store.tokens = w.store.tokens.filter (fun x => x.1 != (samplePair u id id').refresh) ++
        [((samplePair u id id').refresh,
          ⟨w.store.lastTokenId + 1, u, .epoch, sampleRefreshEnd, none⟩)] := by
  let r := registrationWith phone password
  have hname : normalize r.email = "user@example.com" := by
    change normalize "user@example.com" = _
    decide +kernel
  have ha : Token.expiry sampleSettings .access w.now = .ok sampleAccessEnd := by
    rw [hnow]
    rfl
  have hr : Token.expiry sampleSettings .refresh w.now = .ok sampleRefreshEnd := by
    rw [hnow]
    rfl
  have hfree : w.store.isTaken (normalize r.email) (Text.trim r.phone) = false := by
    rw [hname]
    exact htaken
  have hunstored : w.store.findToken (Token.issueUntil sampleSettings .refresh
      (w.store.lastUserId + 1) "" [] w.now sampleRefreshEnd w.ids.next.2.next.1).token = none := by
    rw [Token.token_issueUntil, hu, hid', hnow]
    exact hnew
  have hrun := run_register (s := sampleSettings) (r := r) hn hf (by rw [hname]; decide) hpassword
    parseBirthDate_sample hfree ha hr hunstored
  have hcreate := Store.Memory.createUser_of_free (u := newUser r (normalize r.email)
    sampleBirthDate (Password.hash w.salts.next.1 r.password)) hfree w.now
  intro st
  have hst : st = _ := hrun
  rw [hst]
  unfold signedIn created Store.Memory.putToken
  dsimp only
  rw [hcreate, Token.token_issueUntil, Token.token_issueUntil, hu, hid, hid', hname, hnow,
    show r.role.or w.store.defaultRole = w.store.defaultRole from rfl, hgranted]
  exact ⟨rfl, rfl⟩

/-- In a world with the store and the ids of the small one, the first user gets the first ids, and
just this refresh token is stored. -/
theorem run_firstRegistration (phone password : String) (hpassword : password.isEmpty = false)
    (hstore : w.store = sampleWorld.store) (hids : w.ids = sampleWorld.ids) (hf : w.faults = [])
    (hnow : w.now = Time.Instant.epoch) :
    let st := w.run false (register sampleSettings (registrationWith phone password)).run
    st.1 = .ok (samplePair 1 "0" "1") ∧ st.2.store.tokens =
      [((samplePair 1 "0" "1").refresh, ⟨1, 1, .epoch, sampleRefreshEnd, none⟩)] := by
  have hid : w.ids.next.1 = "0" := by
    rw [hids]
    decide +kernel
  have hid' : w.ids.next.2.next.1 = "1" := by
    rw [hids]
    decide +kernel
  have hgranted : w.store.grantedTo w.store.defaultRole = ["sessions.revoke.any"] := by
    rw [hstore]
    decide +kernel
  have hnumbered : w.store.Numbered := by
    rw [hstore]
    exact Store.Memory.numbered_empty _ _
  have htokens : w.store.tokens = [] ∧ w.store.lastTokenId = 0 := by
    rw [hstore]
    exact ⟨rfl, rfl⟩
  have hrun := run_sampleRegistration (u := 1) phone hnumbered hf hnow
    (by rw [hstore]; rfl) hid hid' hpassword (by rw [hstore]; rfl) hgranted (by rw [hstore]; rfl)
  rw [htokens.1, htokens.2] at hrun
  exact hrun

end SignIn.Session
