-- When a refresh succeeds, and what it has done then. The service checks the
-- token, its record and its user, and the store checks the record once more;
-- the old token goes, a new one comes, and the marker follows.
import SignIn.Proofs.Session.Racing
import SignIn.Proofs.Session.RoundTrip
import SignIn.Proofs.Session.Conduct
import SignIn.Proofs.Store.Rotation
import SignIn.Proofs.Token.Bounds

namespace SignIn.Session

open Operation
open Dialog (run_bind_of_ok run_bind_of_error)

variable {s : Settings} {t : String} {w w' : World}

/-! ## Parts of a refresh -/

/-- The refresh token that an exchange brings in. -/
def nextToken (s : Settings) (w : World) (user : User) (refreshEnd : Time.Instant) : Token.Issued :=
  Token.issueUntil s .refresh user.id "" [] w.now refreshEnd w.ids.next.1

/-- The world when the token has been rotated. -/
def rotatedWorld (s : Settings) (w : World) (t : String) (user : User)
    (refreshEnd : Time.Instant) : World :=
  { w with
    ids := w.ids.next.2
    store := (w.store.mapToken t (Store.Memory.revokedAt w.now)).putToken w.now user.id
      (nextToken s w user refreshEnd).token refreshEnd }

/-- An exchange goes on with what the store says to the rotation. -/
theorem run_exchange_of_rotation {u : Int} {user : User} {refreshEnd : Time.Instant}
    {rotated : Bool} {m : Store.Memory} (hf : w.faults = [])
    (hr : Token.expiry s .refresh w.now = .ok refreshEnd)
    (hrotate : w.store.rotateToken w.now u t (nextToken s w user refreshEnd).token refreshEnd =
      (rotated, m)) :
    w.run false (exchange s t u user w.now).run =
      ({ w with ids := w.ids.next.2, store := m } : World).run false (do
        failIf (!rotated) .refreshTokenInvalid
        remint s user w.now (nextToken s w user refreshEnd) : Operation TokenPair).run := by
  let next := nextToken s w user refreshEnd
  let w₁ : World := { w with ids := w.ids.next.2 }
  have hissue : Dialog.run (World.answer false) w (issueRefresh s user.id w.now).run =
      (.ok next, w₁) := run_issue hr
  have hstore : Dialog.run (World.answer false) w₁ (store (.rotateToken u t next.token
      next.expiresAt)).run = (.ok rotated, { w₁ with store := m }) := by
    refine World.run_storeOr (w := w₁) hf ?_
    change (Except.ok (w.store.rotateToken w.now u t next.token refreshEnd).1,
      (w.store.rotateToken w.now u t next.token refreshEnd).2) = _
    rw [hrotate]
    rfl
  unfold exchange rotate World.run
  rw [run_bind_of_ok _ hissue]
  exact run_bind_of_ok (α := Bool) _ hstore

/-- An exchange that the store agrees to rotates the token and goes on. -/
theorem run_exchange_rotated {user : User} {refreshEnd : Time.Instant} (hf : w.faults = [])
    (hmay : w.store.MayRotate w.now user.id t)
    (hr : Token.expiry s .refresh w.now = .ok refreshEnd) :
    w.run false (exchange s t user.id user w.now).run =
      (rotatedWorld s w t user refreshEnd).run false
        (remint s user w.now (nextToken s w user refreshEnd)).run := by
  rw [run_exchange_of_rotation hf hr (Store.Memory.rotateToken_of_mayRotate hmay _ _)]
  have hdone : (!true) = false := rfl
  unfold World.run
  rw [run_bind_of_ok _ (Dialog.run_failIf hdone)]
  rfl

/-- The pair and the world when the token has been exchanged. -/
def exchanged (s : Settings) (w : World) (t : String) (user : User)
    (accessEnd refreshEnd : Time.Instant) : TokenPair × World :=
  let rotated := rotatedWorld s w t user refreshEnd
  let access := Token.issueUntil s .access user.id user.email (w.store.grantedTo user.role) w.now
    accessEnd rotated.ids.next.1
  (⟨access.token, (nextToken s w user refreshEnd).token⟩,
    { rotated with
      ids := rotated.ids.next.2
      cache := w.cache.set w.ticks (s.accessKey user.id) access.id s.accessLifetime })

theorem run_exchange {user : User} {accessEnd refreshEnd : Time.Instant} (hf : w.faults = [])
    (hmay : w.store.MayRotate w.now user.id t)
    (ha : Token.expiry s .access w.now = .ok accessEnd)
    (hr : Token.expiry s .refresh w.now = .ok refreshEnd) :
    w.run false (exchange s t user.id user w.now).run =
      (.ok (exchanged s w t user accessEnd refreshEnd).1,
        (exchanged s w t user accessEnd refreshEnd).2) := by
  rw [run_exchange_rotated hf hmay hr]
  exact run_remint (w := rotatedWorld s w t user refreshEnd) hf ha

/-- Where no access token can be issued, an exchange fails once the token is rotated. -/
theorem run_exchange_of_unissued {user : User} {refreshEnd : Time.Instant} {e : AuthError}
    (hf : w.faults = []) (hmay : w.store.MayRotate w.now user.id t)
    (ha : Token.expiry s .access w.now = .error e)
    (hr : Token.expiry s .refresh w.now = .ok refreshEnd) :
    w.run false (exchange s t user.id user w.now).run =
      (.error e, rotatedWorld s w t user refreshEnd) := by
  let rotated := rotatedWorld s w t user refreshEnd
  have hpermissions : Dialog.run (World.answer false) rotated (permissionsFor user.role).run =
      (.ok (rotated.store.grantedTo user.role), rotated) :=
    run_permissionsFor (w := rotated) hf user.role
  have hissue : Dialog.run (World.answer false) rotated (issueAccess s user.id user.email
      (rotated.store.grantedTo user.role) w.now).run = (.error e, rotated) := by
    unfold issueAccess issue
    rw [ha]
    rfl
  rw [run_exchange_rotated hf hmay hr]
  unfold remint World.run
  rw [run_bind_of_ok _ hpermissions, run_bind_of_error _ hissue]

/-- An exchange that the store does not agree to fails. -/
theorem run_exchange_of_refused {u : Int} {user : User} {refreshEnd : Time.Instant}
    (hf : w.faults = []) (hmay : ¬ w.store.MayRotate w.now u t)
    (hr : Token.expiry s .refresh w.now = .ok refreshEnd) :
    ∃ e w', w.run false (exchange s t u user w.now).run = (.error e, w') := by
  rw [run_exchange_of_rotation hf hr (Store.Memory.rotateToken_of_not_mayRotate hmay _ _)]
  exact ⟨.refreshTokenInvalid, _, rfl⟩

/-! ## When a refresh succeeds -/

/-- Nothing speaks against exchanging the token now: it is verified, and its record is there, not
revoked, in its time, and of the user whom it names; and that user has an account that is not
deleted. -/
structure MayRefresh (s : Settings) (w : World) (t : String) (claims : Claims)
    (record : RefreshRecord) : Prop where
  verified : Token.verify t .refresh (Token.secretOf s .refresh) w.now.unixSeconds = .ok claims
  stored : w.store.findToken t = some record
  unrevoked : record.isRevoked = false
  in_time : w.now < record.expiresAt
  owner : record.userId = claims.userId
  account : w.store.HasUser claims.userId

theorem isExpired_eq_false_iff {r : RefreshRecord} {now : Time.Instant} :
    r.isExpired now = false ↔ now < r.expiresAt := by
  unfold RefreshRecord.isExpired
  rw [decide_eq_false_iff_not]
  exact Int.not_le

/-- What a refresh does with the record of a user's token. -/
def exchangeOf (s : Settings) (t : String) (u : Int) (record : RefreshRecord)
    (now : Time.Instant) : Operation TokenPair := do
  failIf record.isRevoked .refreshTokenRevoked
  failIf (record.isExpired now) .refreshTokenExpired
  let user ← orFail .userNotFound (← store (.findUser u))
  exchange s t u user now

/-- A refresh of a verified token that has a record goes on with the record. -/
theorem run_refresh_of_stored {claims : Claims} {record : RefreshRecord} (hf : w.faults = [])
    (hv : Token.verify t .refresh (Token.secretOf s .refresh) w.now.unixSeconds = .ok claims)
    (hr : w.store.findToken t = some record) :
    w.run false (refresh s t).run =
      w.run false (exchangeOf s t claims.userId record w.now).run := by
  have hverify : Dialog.run (World.answer false) w (verify s .refresh t).run = (.ok claims, w) :=
    run_verify_of_ok hv
  have hclock : Dialog.run (World.answer false) w clock.run = (.ok w.now, w) := rfl
  have htoken : Dialog.run (World.answer false) w (store (.findToken t)).run =
      (.ok (some record), w) := World.run_lookup hf (by rw [← hr]; rfl)
  rw [refresh_eq]
  unfold World.run
  rw [run_bind_of_ok _ hverify, run_bind_of_ok _ hclock, run_bind_of_ok _ htoken,
    run_bind_of_ok (a := record) (r := w) _ rfl]
  rfl

/-- A refresh that finds all that it looks up goes on to the exchange. -/
theorem run_refresh_of_found {claims : Claims} {record : RefreshRecord} {user : User}
    (hf : w.faults = [])
    (hv : Token.verify t .refresh (Token.secretOf s .refresh) w.now.unixSeconds = .ok claims)
    (hr : w.store.findToken t = some record) (hunrevoked : record.isRevoked = false)
    (hin : w.now < record.expiresAt) (hu : w.store.findUser claims.userId = some user) :
    w.run false (refresh s t).run = w.run false (exchange s t user.id user w.now).run := by
  have hid : user.id = claims.userId := (Store.Memory.HasUser.of_findUser hu).2
  have huser : Dialog.run (World.answer false) w (store (.findUser claims.userId)).run =
      (.ok (some user), w) := World.run_lookup hf (by rw [← hu]; rfl)
  rw [run_refresh_of_stored hf hv hr]
  unfold exchangeOf World.run
  rw [run_bind_of_ok _ (Dialog.run_failIf hunrevoked),
    run_bind_of_ok _ (Dialog.run_failIf (isExpired_eq_false_iff.2 hin)), run_bind_of_ok _ huser,
    run_bind_of_ok (a := user) (r := w) _ rfl, hid]

/-- Where something speaks against the record or its user, a refresh fails with it. -/
theorem run_exchangeOf_of_refused {u : Int} {record : RefreshRecord} {refreshEnd : Time.Instant}
    (hf : w.faults = []) (hr : Token.expiry s .refresh w.now = .ok refreshEnd)
    (h : ¬ (record.isRevoked = false ∧ w.now < record.expiresAt ∧ w.store.HasUser u ∧
      w.store.MayRotate w.now u t)) :
    ∃ e w', w.run false (exchangeOf s t u record w.now).run = (.error e, w') := by
  unfold exchangeOf World.run
  by_cases hunrevoked : record.isRevoked = false
  · rw [run_bind_of_ok _ (Dialog.run_failIf hunrevoked)]
    by_cases hin : w.now < record.expiresAt
    · have huser : Dialog.run (World.answer false) w (store (.findUser u)).run =
          (.ok (w.store.findUser u), w) := World.run_lookup hf rfl
      rw [run_bind_of_ok _ (Dialog.run_failIf (isExpired_eq_false_iff.2 hin)),
        run_bind_of_ok _ huser]
      cases hu : w.store.findUser u with
      | none => exact ⟨.userNotFound, w, rfl⟩
      | some user =>
        rw [run_bind_of_ok (a := user) (r := w) _ rfl]
        obtain ⟨haccount, _⟩ := Store.Memory.HasUser.of_findUser hu
        apply run_exchange_of_refused hf _ hr
        intro hmay
        exact h ⟨hunrevoked, hin, haccount, hmay⟩
    · have hover : record.isExpired w.now = true := by
        by_contra hne
        exact hin (isExpired_eq_false_iff.1 (Bool.eq_false_iff.2 hne))
      rw [hover]
      exact ⟨.refreshTokenExpired, w, rfl⟩
  · have hrevoked : record.isRevoked = true := by simpa using hunrevoked
    rw [hrevoked]
    exact ⟨.refreshTokenRevoked, w, rfl⟩

/-- Where something speaks against the exchange, a refresh fails. -/
theorem run_refresh_of_not_mayRefresh {refreshEnd : Time.Instant} (hf : w.faults = [])
    (hr : Token.expiry s .refresh w.now = .ok refreshEnd)
    (h : ¬ ∃ claims record, MayRefresh s w t claims record) :
    ∃ e w', w.run false (refresh s t).run = (.error e, w') := by
  cases hv : Token.verify t .refresh (Token.secretOf s .refresh) w.now.unixSeconds with
  | error r =>
    have hverify : Dialog.run (World.answer false) w (verify s .refresh t).run =
        (.error (refused r), w) := run_verify_of_error hv
    exact ⟨_, w, run_bind_of_error _ hverify⟩
  | ok claims =>
    cases hfound : w.store.findToken t with
    | none =>
      have hverify : Dialog.run (World.answer false) w (verify s .refresh t).run =
          (.ok claims, w) := run_verify_of_ok hv
      have hclock : Dialog.run (World.answer false) w clock.run = (.ok w.now, w) := rfl
      have htoken : Dialog.run (World.answer false) w (store (.findToken t)).run =
          (.ok none, w) := World.run_lookup hf (by rw [← hfound]; rfl)
      refine ⟨.refreshTokenNotFound, w, ?_⟩
      unfold refresh World.run
      rw [run_bind_of_ok _ hverify, run_bind_of_ok _ hclock, run_bind_of_ok _ htoken]
      rfl
    | some record =>
      rw [run_refresh_of_stored hf hv hfound]
      apply run_exchangeOf_of_refused hf hr
      rintro ⟨hunrevoked, hin, haccount, record', hfound', howner, _⟩
      rw [hfound] at hfound'
      cases hfound'
      exact h ⟨claims, record, hv, hfound, hunrevoked, hin, howner, haccount⟩

theorem MayRefresh.run_refresh {claims : Claims} {record : RefreshRecord}
    {accessEnd refreshEnd : Time.Instant} (h : MayRefresh s w t claims record) (hf : w.faults = [])
    (ha : Token.expiry s .access w.now = .ok accessEnd)
    (hr : Token.expiry s .refresh w.now = .ok refreshEnd) :
    ∃ user, w.store.findUser claims.userId = some user ∧ w.store.MayRotate w.now user.id t ∧
      w.run false (refresh s t).run = (.ok (exchanged s w t user accessEnd refreshEnd).1,
        (exchanged s w t user accessEnd refreshEnd).2) := by
  obtain ⟨user, hu⟩ := exists_findUser_of_hasUser h.account
  have hid : user.id = claims.userId := (Store.Memory.HasUser.of_findUser hu).2
  have hmay : w.store.MayRotate w.now user.id t :=
    ⟨record, h.stored, h.owner.trans hid.symm, h.unrevoked, h.in_time⟩
  refine ⟨user, hu, hmay, ?_⟩
  rw [run_refresh_of_found hf h.verified h.stored h.unrevoked h.in_time hu]
  exact run_exchange hf hmay ha hr

/-! ## What it has done then -/

/-- What a refresh of a user's token has done when it has answered the pair. The old record is
revoked, and the new one lasts for a refresh lifetime; the access token says who the user is now and
what the role permits; the user's marker names that token for an access lifetime; and everything
else is as it was. -/
structure Refreshed (s : Settings) (w w' : World) (t : String) (user : User)
    (accessEnd refreshEnd : Time.Instant) (pair : TokenPair) : Prop where
  rotated : w.store.Rotates w'.store w.now user.id t pair.refresh refreshEnd
  marked : ∃ id,
    Token.Signed.ofToken pair.access (Token.secretOf s .access) =
      .ok (Token.signedOf (Token.claimsUntil .access user.id user.email
        (w.store.grantedTo user.role) w.now accessEnd id)) ∧
    w'.cache.find? (s.accessKey user.id) = some ⟨id, w.ticks + s.accessLifetime.nanos⟩
  unmarked : ∀ key, key ≠ s.accessKey user.id → w'.cache.find? key = w.cache.find? key
  clocks : w'.now = w.now ∧ w'.ticks = w.ticks

theorem refreshed_exchanged {user : User} {accessEnd refreshEnd : Time.Instant}
    (hcounted : w.store.IsCounted) (hmay : w.store.MayRotate w.now user.id t)
    (h64 : Text.Decimal.int64Low ≤ user.id ∧ user.id ≤ Text.Decimal.int64High)
    (hnow : 0 ≤ w.now.unixSeconds) (ha : Token.expiry s .access w.now = .ok accessEnd)
    (hnew : w.store.findToken (exchanged s w t user accessEnd refreshEnd).1.refresh = none) :
    Refreshed s w (exchanged s w t user accessEnd refreshEnd).2 t user accessEnd refreshEnd
      (exchanged s w t user accessEnd refreshEnd).1 := by
  refine ⟨hcounted.rotates hmay hnew refreshEnd, ⟨w.ids.next.2.next.1, ?_, ?_⟩, fun key hkey => ?_,
    rfl, rfl⟩
  · have hend : 0 ≤ accessEnd.unixSeconds := by
      have hnanos := nanos_of_expiry ha
      change 0 ≤ w.now.nanos / 1000000000 at hnow
      change 0 ≤ accessEnd.nanos / 1000000000
      omega
    exact Token.ofToken_sign _ (Token.fits_claimsUntil h64 _ _ _ _ _ _) hend hnow
  · refine (Cache.Memory.find?_put _ _ _ _).trans ?_
    rw [if_pos rfl]
    rfl
  · refine (Cache.Memory.find?_put _ _ _ _).trans ?_
    rw [if_neg hkey]

/-- **Refreshing, end to end.** While no call fails, a refresh succeeds exactly if the token is
verified and its record is there, not revoked, in its time and of the user whom it names, who has an
account; and if the token that it mints is new, it has then done all of what it is for, and nothing
else. -/
theorem refresh_succeeds_iff {roles : List (Int × List String)} {defaultRole : Option Int}
    {inquiries : List Store.Inquiry} {accessEnd refreshEnd : Time.Instant}
    (hstore : w.store = (Store.Memory.empty roles defaultRole).afterAll inquiries)
    (hf : w.faults = []) (ha : Token.expiry s .access w.now = .ok accessEnd)
    (hr : Token.expiry s .refresh w.now = .ok refreshEnd) (t : String) :
    ((∃ pair w', w.run? false (refresh s t).run = some (.ok pair, w')) ↔
        ∃ claims record, MayRefresh s w t claims record) ∧
      ∀ pair w', w.run? false (refresh s t).run = some (.ok pair, w') →
        w.store.findToken pair.refresh = none →
          ∃ claims record user, MayRefresh s w t claims record ∧
            w.store.findUser claims.userId = some user ∧
            Refreshed s w w' t user accessEnd refreshEnd pair := by
  -- A token that is verified is one of a time in which the clock can be read.
  have hreadable : ∀ {claims record}, MayRefresh s w t claims record →
      w.run? false (refresh s t).run = some (w.run false (refresh s t).run) := by
    intro claims record h
    exact World.run?_of_isClockReadable _ _
      (isClockReadable_of_nonneg (Token.nonneg_of_verify h.verified))
  have hconverse : ∀ {pair w'}, w.run? false (refresh s t).run = some (.ok pair, w') →
      ∃ claims record, MayRefresh s w t claims record := by
    intro pair w' hrun
    by_contra hnot
    obtain ⟨e, w'', herror⟩ := run_refresh_of_not_mayRefresh hf hr hnot
    unfold World.run? at hrun
    rw [herror] at hrun
    split at hrun <;> cases hrun
  refine ⟨⟨fun ⟨pair, w', hrun⟩ => hconverse hrun, ?_⟩, fun pair w' hrun hnew => ?_⟩
  · rintro ⟨claims, record, h⟩
    obtain ⟨user, _, _, hrun⟩ := h.run_refresh hf ha hr
    exact ⟨_, _, by rw [hreadable h, hrun]⟩
  · obtain ⟨claims, record, h⟩ := hconverse hrun
    obtain ⟨user, hu, hmay, hexchanged⟩ := h.run_refresh hf ha hr
    rw [hreadable h, hexchanged] at hrun
    cases hrun
    have hid : user.id = claims.userId := (Store.Memory.HasUser.of_findUser hu).2
    have hcounted : w.store.IsCounted := by
      rw [hstore]
      exact Store.Memory.isCounted_afterAll _ _ _
    refine ⟨claims, record, user, h, hu, refreshed_exchanged hcounted hmay ?_
      (Token.nonneg_of_verify h.verified) ha hnew⟩
    rw [hid]
    exact (Token.fits_of_verify h.verified).userId

/-- The token of the user in the small session is exchanged. -/
theorem sampleSession_is_refreshed :
    ∃ pair w' claims record user,
      sampleSession.run? false (refresh sampleSettings sampleToken).run = some (.ok pair, w') ∧
      MayRefresh sampleSettings sampleSession sampleToken claims record ∧
      Refreshed sampleSettings sampleSession w' sampleToken user sampleAccessEnd sampleRefreshEnd
        pair := by
  have hstore : sampleSession.store = (Store.Memory.empty [(1, ["sessions.revoke.any"])]
      (some 1)).afterAll [⟨.createUser (newUser (sampleRegistration "1") "user@example.com"
        ⟨1990, 12, 10, by decide, by decide, by decide⟩ ""), .epoch, false⟩,
          ⟨.createToken 1 sampleToken sampleRefreshEnd, .epoch, false⟩] := by
    rfl
  have ha : Token.expiry sampleSettings .access sampleSession.now = .ok sampleAccessEnd := rfl
  have hr : Token.expiry sampleSettings .refresh sampleSession.now = .ok sampleRefreshEnd := rfl
  obtain ⟨hiff, heffects⟩ := refresh_succeeds_iff hstore rfl ha hr sampleToken
  have hmay : MayRefresh sampleSettings sampleSession sampleToken (sampleRefreshClaims 1 "t")
      sampleRecord :=
    ⟨verify_sampleToken, findToken_sampleSession, rfl, by decide, rfl,
      ⟨_, Store.Memory.mem_liveRows.2 ⟨List.mem_cons_self, rfl⟩, rfl⟩⟩
  obtain ⟨pair, w', hrun⟩ := hiff.2 ⟨_, _, hmay⟩
  obtain ⟨user, hu, _, hexchanged⟩ := hmay.run_refresh rfl ha hr
  have hid : user.id = 1 := (Store.Memory.HasUser.of_findUser hu).2
  -- The new token has another id than the one that is stored.
  have hnew : sampleSession.store.findToken pair.refresh = none := by
    rw [World.run?_of_isClockReadable _ _ (by decide), hexchanged] at hrun
    cases hrun
    change List.lookup _ [(sampleToken, sampleRecord)] = none
    rw [List.lookup_cons, beq_false_of_ne]
    · rfl
    · unfold exchanged nextToken
      dsimp only
      rw [hid]
      exact sample_token_ne (by decide)
  obtain ⟨claims, record, user', h, _, hdone⟩ := heffects pair w' hrun hnew
  exact ⟨pair, w', claims, record, user', hrun, h, hdone⟩

end SignIn.Session
