-- How refreshes run when nothing fails: each looks up what it needs and comes
-- to the rotation, and once it has rotated the token it writes the marker.
import SignIn.Proofs.Session.Refreshing
import SignIn.Proofs.Session.Runs

namespace SignIn.Session

open Operation
open Dialog (runUntil runUntil_bind_of_ok)
open Pool (noted)

variable {s : Settings} {t : String} {w : World} {log : List Exchange} {i : Nat}
  {stop : Ask → Bool}

/-! ## Questions -/

theorem runUntil_ask {q : Ask} (hq : stop q = false) :
    runUntil stop (noted i) (w, log) (ask q).run =
      (.done (.ok (w.answer false q).1), ((w.answer false q).2,
        ⟨i, w.ticks, ⟨q, (w.answer false q).1⟩⟩ :: log)) := by
  have h : runUntil stop (noted i) (w, log) (ask q).run =
      if stop q = true then ((ask q).run, (w, log)) else
        (.done (.ok (w.answer false q).1), ((w.answer false q).2,
          ⟨i, w.ticks, ⟨q, (w.answer false q).1⟩⟩ :: log)) := rfl
  rw [h, hq]
  rfl

theorem runUntil_clock (hq : stop .clock = false) :
    runUntil stop (noted i) (w, log) clock.run =
      (.done (.ok w.now), (w, ⟨i, w.ticks, ⟨.clock, w.now⟩⟩ :: log)) :=
  runUntil_ask hq

theorem runUntil_storeOr {onError : StoreError → AuthError} {q : Store.Request} {a : q.Answer}
    {m : Store.Memory} (hq : stop (.store q) = false) (hf : w.faults = [])
    (h : w.store.answer w.now q = (.ok a, m)) :
    runUntil stop (noted i) (w, log) (storeOr onError q).run =
      (.done (.ok a), ({ w with store := m }, ⟨i, w.ticks, ⟨.store q, .ok a⟩⟩ :: log)) := by
  obtain ⟨k, hk, hok⟩ := storeOr_run onError q
  rw [hk]
  unfold runUntil noted
  rw [hq, if_neg (by decide)]
  dsimp only
  rw [World.answer_store hf, h]
  dsimp only
  rw [hok]
  rfl

theorem runUntil_issue {kind : TokenKind} {userId : Int} {email : String}
    {permissions : List String} {now expiresAt : Time.Instant} (hq : stop .freshId = false)
    (h : Token.expiry s kind now = .ok expiresAt) :
    runUntil stop (noted i) (w, log) (issue s kind userId email permissions now).run =
      (.done (.ok (Token.issueUntil s kind userId email permissions now expiresAt w.ids.next.1)),
        ({ w with ids := w.ids.next.2 }, ⟨i, w.ticks, ⟨.freshId, w.ids.next.1⟩⟩ :: log)) := by
  unfold issue
  rw [h, runUntil_bind_of_ok (a := expiresAt) (r := (w, log)) _ rfl,
    runUntil_bind_of_ok _ (runUntil_ask hq)]
  rfl

/-! ## Up to the rotation -/

/-- A call that goes on with an operation that mints a pair. -/
def minting (op : Operation TokenPair) : Program Reply :=
  (do return some (← op) : Operation (Option TokenPair)).run

theorem runUntil_verify {kind : TokenKind} {c : Claims} (hq : stop .clock = false)
    (h : Token.verify t kind (Token.secretOf s kind) w.now.unixSeconds = .ok c) :
    runUntil stop (noted i) (w, log) (verify s kind t).run =
      (.done (.ok c), (w, ⟨i, w.ticks, ⟨.clock, w.now⟩⟩ :: log)) := by
  unfold Token.verify at h
  unfold verify
  cases hs : Token.Signed.ofToken t (Token.secretOf s kind) with
  | error r =>
    rw [hs] at h
    cases h
  | ok signed =>
    rw [hs] at h
    have ha : signed.accept kind w.now.unixSeconds = .ok c := h
    rw [runUntil_bind_of_ok (a := signed) (r := (w, log)) _ rfl,
      runUntil_bind_of_ok _ (runUntil_clock hq), ha]
    rfl

/-- A refresh of an active token of a user who is there comes to the rotation. -/
theorem refresh_meets {c : Claims} {record : RefreshRecord} {user : User}
    {expiresAt : Time.Instant} (hf : w.faults = [])
    (hv : Token.verify t .refresh (Token.secretOf s .refresh) w.now.unixSeconds = .ok c)
    (hr : w.store.findToken t = some record) (ha : record.isActive w.now = true)
    (hu : w.store.findUser c.userId = some user)
    (he : Token.expiry s .refresh w.now = .ok expiresAt) :
    runUntil Ask.isRotation (noted i) (w, log) (Call.program s (.refresh t)) =
      (minting (rotate s t c.userId user w.now
          (Token.issueUntil s .refresh user.id "" [] w.now expiresAt w.ids.next.1)),
        ({ w with ids := w.ids.next.2 },
          [⟨i, w.ticks, ⟨.freshId, w.ids.next.1⟩⟩,
            ⟨i, w.ticks, ⟨.store (.findUser c.userId), .ok (some user)⟩⟩,
            ⟨i, w.ticks, ⟨.store (.findToken t), .ok (some record)⟩⟩,
            ⟨i, w.ticks, ⟨.clock, w.now⟩⟩, ⟨i, w.ticks, ⟨.clock, w.now⟩⟩] ++ log)) := by
  obtain ⟨hnr, hne⟩ : record.isRevoked = false ∧ record.isExpired w.now = false := by
    unfold RefreshRecord.isActive at ha
    simpa using ha
  have htoken : ∀ {log : List Exchange}, runUntil Ask.isRotation (noted i) (w, log)
      (store (.findToken t)).run = (.done (.ok (some record)), (w,
        ⟨i, w.ticks, ⟨.store (.findToken t), .ok (some record)⟩⟩ :: log)) :=
    runUntil_storeOr rfl hf (by rw [← hr]; rfl)
  have huser : ∀ {log : List Exchange}, runUntil Ask.isRotation (noted i) (w, log)
      (store (.findUser c.userId)).run = (.done (.ok (some user)), (w,
        ⟨i, w.ticks, ⟨.store (.findUser c.userId), .ok (some user)⟩⟩ :: log)) :=
    runUntil_storeOr rfl hf (by rw [← hu]; rfl)
  refine Dialog.runUntil_bind_of_ask (d := (refresh s t).run) ?_
  rw [refresh_eq, runUntil_bind_of_ok _ (runUntil_verify rfl hv),
    runUntil_bind_of_ok _ (runUntil_clock rfl),
    runUntil_bind_of_ok _ htoken,
    runUntil_bind_of_ok (a := record) (r := (w, _)) _ rfl,
    runUntil_bind_of_ok _ (Dialog.runUntil_failIf hnr),
    runUntil_bind_of_ok _ (Dialog.runUntil_failIf hne),
    runUntil_bind_of_ok _ huser,
    runUntil_bind_of_ok (a := user) (r := (w, _)) _ rfl]
  unfold exchange issueRefresh
  rw [runUntil_bind_of_ok _ (runUntil_issue rfl he)]
  rfl

/-! ## From the rotation on -/

variable {p : Pool Reply} {u : Int} {user : User} {now : Time.Instant} {next : Token.Issued}

/-- The rotation decides whether a refresh goes on. -/
theorem turn_rotate {done : Bool} {m : Store.Memory}
    (hi : p.ops[i]? = some (minting (rotate s t u user now next))) (hf : p.world.faults = [])
    (h : p.world.store.rotateToken p.world.now u t next.token next.expiresAt = (done, m)) :
    p.turn i = ⟨{ p.world with store := m },
      p.ops.set i (if done then minting (remint s user now next)
        else .done (.error .refreshTokenInvalid)),
      ⟨i, p.world.ticks, ⟨.store (.rotateToken u t next.token next.expiresAt), .ok done⟩⟩ ::
        p.log⟩ := by
  have hanswer : p.world.answer false (.store (.rotateToken u t next.token next.expiresAt)) =
      (.ok done, { p.world with store := m }) := by
    rw [World.answer_store hf]
    change (Except.ok (p.world.store.rotateToken p.world.now u t next.token next.expiresAt).1,
      { p.world with store :=
        (p.world.store.rotateToken p.world.now u t next.token next.expiresAt).2 }) = _
    rw [h]
    rfl
  obtain ⟨k, hk, hdone⟩ : ∃ k, minting (rotate s t u user now next) =
        .ask (.store (.rotateToken u t next.token next.expiresAt)) k ∧
      k (.ok done) = if done then minting (remint s user now next)
        else .done (.error .refreshTokenInvalid) :=
    ⟨_, rfl, by cases done <;> rfl⟩
  rw [hk] at hi
  unfold Pool.turn
  rw [hi]
  dsimp only
  rw [hanswer, hdone]

/-- Once the token is rotated, the pair is minted and the marker written. -/
theorem run_remint {accessEnd : Time.Instant} (hf : w.faults = [])
    (ha : Token.expiry s .access now = .ok accessEnd) :
    w.run false (remint s user now next).run =
      (.ok ⟨(Token.issueUntil s .access user.id user.email (w.store.grantedTo user.role) now
          accessEnd w.ids.next.1).token, next.token⟩,
        { w with
          ids := w.ids.next.2
          cache := w.cache.set w.ticks (s.accessKey user.id) w.ids.next.1
            (Token.lifetimeOf s .access) }) := by
  let w₁ : World := { w with ids := w.ids.next.2 }
  let access := Token.issueUntil s .access user.id user.email (w.store.grantedTo user.role) now
    accessEnd w.ids.next.1
  have h₁ : Dialog.run (World.answer false) w (permissionsFor user.role).run =
      (.ok (w.store.grantedTo user.role), w) := run_permissionsFor hf user.role
  have h₂ : Dialog.run (World.answer false) w (issueAccess s user.id user.email
      (w.store.grantedTo user.role) now).run = (.ok access, w₁) := run_issue ha
  have h₃ : Dialog.run (World.answer false) w₁ (markLive s user.id access now).run =
      (.ok (), _) := run_markLive hf (until?_of_expiry ha)
  unfold remint World.run
  rw [Dialog.run_bind_of_ok _ h₁, Dialog.run_bind_of_ok _ h₂, Dialog.run_bind_of_ok _ h₃]
  rfl

theorem run_minting {op : Operation TokenPair} {pair : TokenPair} {w' : World}
    (h : w.run false op.run = (.ok pair, w')) :
    w.run false (minting op) = (.ok (some pair), w') :=
  Dialog.run_bind_of_ok (fun pair => (pure (some pair) : Operation _)) h

/-! ## A small race -/

/-- The refresh token that a user has in it. -/
def sampleToken : String :=
  (Token.issueUntil sampleSettings .refresh 1 "" [] .epoch sampleRefreshEnd "t").token

def sampleUser : User :=
  (sampleWorld.store.newRow .epoch (newUser (sampleRegistration "1") "user@example.com"
    sampleBirthDate "")).user

/-- What the store keeps of it. -/
def sampleRecord : RefreshRecord := ⟨1, 1, .epoch, sampleRefreshEnd, none⟩

theorem sampleRecord_isActive : sampleRecord.isActive .epoch = true := by decide

theorem sampleRecord_isInactive :
    (Store.Memory.revokedAt .epoch sampleRecord).isActive .epoch = false := by decide

/-- The small world with a user who is signed in. -/
def sampleSession : World :=
  { sampleWorld with
    store := { sampleWorld.store with
      rows := [⟨sampleUser, "", none⟩]
      lastUserId := 1
      tokens := [(sampleToken, sampleRecord)]
      lastTokenId := 1 } }

theorem verify_sampleToken : Token.verify sampleToken .refresh
    (Token.secretOf sampleSettings .refresh) Time.Instant.epoch.unixSeconds =
      .ok (sampleRefreshClaims 1 "t") :=
  Token.verify_sign _ (Token.fits_claimsUntil (by decide) _ _ _ _ _ _) rfl (by decide) (by decide)
    (by decide)

theorem names_sampleToken : Names sampleSettings sampleToken 1 :=
  ⟨_, Token.ofToken_sign _ (Token.fits_claimsUntil (by decide) _ _ _ _ _ _) (by decide)
    (by decide), rfl⟩

theorem findToken_sampleSession :
    sampleSession.store.findToken sampleToken = some sampleRecord := by
  change List.lookup sampleToken [(sampleToken, _)] = _
  rw [List.lookup_cons, beq_self_eq_true]

/-- The refresh token that the n-th id is for. -/
def sampleNext (n : Nat) : Token.Issued :=
  Token.issueUntil sampleSettings .refresh 1 "" [] .epoch sampleRefreshEnd (Text.Decimal.ofNat n)

/-- Refresh tokens with different ids are different. -/
theorem sample_token_ne {id id' : String} (h : id ≠ id') :
    (Token.issueUntil sampleSettings .refresh 1 "" [] .epoch sampleRefreshEnd id).token ≠
      (Token.issueUntil sampleSettings .refresh 1 "" [] .epoch sampleRefreshEnd id').token := by
  intro he
  have hc := Token.sign_injective (Token.fits_claimsUntil (by decide) _ _ _ _ _ _) he
  exact h (congrArg Claims.id hc).symm

/-- What a refresh with the n-th id says before it comes to the rotation, as the i-th operation. -/
def sampleLookups (i n : Nat) : List Exchange :=
  [⟨i, 0, ⟨.freshId, Text.Decimal.ofNat n⟩⟩,
    ⟨i, 0, ⟨.store (.findUser 1), .ok (some sampleUser)⟩⟩,
    ⟨i, 0, ⟨.store (.findToken sampleToken), .ok (some sampleRecord)⟩⟩,
    ⟨i, 0, ⟨.clock, Time.Instant.epoch⟩⟩, ⟨i, 0, ⟨.clock, Time.Instant.epoch⟩⟩]

theorem runUntil_sampleRefresh (ids : Supply String) {n : Nat}
    (hid : ids.next.1 = Text.Decimal.ofNat n) (i : Nat) (log : List Exchange) :
    runUntil Ask.isRotation (noted i) ({ sampleSession with ids := ids }, log)
      (Call.program sampleSettings (.refresh sampleToken)) =
      (minting (rotate sampleSettings sampleToken 1 sampleUser .epoch (sampleNext n)),
        ({ sampleSession with ids := ids.next.2 }, sampleLookups i n ++ log)) := by
  have huser : sampleSession.store.findUser 1 = some sampleUser := rfl
  have hend : Token.expiry sampleSettings .refresh .epoch = .ok sampleRefreshEnd := rfl
  unfold sampleNext sampleLookups
  rw [← hid]
  exact refresh_meets (w := { sampleSession with ids := ids }) rfl verify_sampleToken
    findToken_sampleSession sampleRecord_isActive huser hend

/-- Two refreshes of the token that have come to the rotation. -/
def sampleMeeting : Pool Reply where
  world := { sampleSession with ids := sampleSession.ids.next.2.next.2 }
  ops := [minting (rotate sampleSettings sampleToken 1 sampleUser .epoch (sampleNext 0)),
    minting (rotate sampleSettings sampleToken 1 sampleUser .epoch (sampleNext 1))]
  log := sampleLookups 1 1 ++ sampleLookups 0 0

theorem sampleMeeting_runs {mayFail : Prop} : Pool.Runs mayFail (begin sampleSettings sampleSession
    [.refresh sampleToken, .refresh sampleToken]) sampleMeeting := by
  have h₀ : Pool.Runs mayFail (begin sampleSettings sampleSession
      [.refresh sampleToken, .refresh sampleToken]) _ := Pool.runs_runUntil (i := 0) rfl
    (runUntil_sampleRefresh sampleSession.ids (n := 0) rfl 0 [])
  exact h₀.trans (Pool.runs_runUntil (i := 1) rfl
    (runUntil_sampleRefresh sampleSession.ids.next.2 (n := 1) rfl 1 _))

/-- The store once the first of them has rotated the token. -/
def sampleRotated : Store.Memory :=
  (sampleSession.store.mapToken sampleToken (Store.Memory.revokedAt .epoch)).putToken .epoch 1
    (sampleNext 0).token (sampleNext 0).expiresAt

theorem findToken_sampleRotated :
    sampleRotated.findToken sampleToken = some (Store.Memory.revokedAt .epoch sampleRecord) :=
  Store.Memory.findToken_rotated findToken_sampleSession (sample_token_ne (by decide)) _ _ _

/-- The pool once the first of them has rotated the token. -/
def sampleWon : Pool Reply where
  world := { sampleSession with store := sampleRotated, ids := sampleSession.ids.next.2.next.2 }
  ops := [minting (remint sampleSettings sampleUser .epoch (sampleNext 0)),
    minting (rotate sampleSettings sampleToken 1 sampleUser .epoch (sampleNext 1))]
  log := ⟨0, 0, ⟨.store (.rotateToken 1 sampleToken (sampleNext 0).token
    (sampleNext 0).expiresAt), .ok true⟩⟩ :: sampleMeeting.log

theorem turn_sampleMeeting : sampleMeeting.turn 0 = sampleWon :=
  turn_rotate (p := sampleMeeting) (i := 0) rfl rfl (Store.Memory.rotateToken_of_active
    findToken_sampleSession rfl sampleRecord_isActive)

end SignIn.Session
