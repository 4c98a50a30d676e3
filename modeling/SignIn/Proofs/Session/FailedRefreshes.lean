-- What is left of a session when a refresh fails. The rotation is one write in
-- the middle of a refresh: what fails up to there leaves everything as it is,
-- and what fails behind it leaves the user a token that nobody has been handed.
import SignIn.Proofs.Session.Exchanging

namespace SignIn

open Dialog (Ensures Along Told Anything)
open Operation
open World (Turn SameState)

namespace World

variable {mayFail : Prop} {w w' w'' : World}

/-- Nothing has changed, and no failure has come into sight. -/
structure Still (w w' : World) : Prop where
  same : SameState w w'
  faults : w.faults = [] → w'.faults = []

theorem Still.refl (w : World) : Still w w := ⟨.refl w, id⟩

theorem Still.trans (h : Still w w') (h' : Still w' w'') : Still w w'' :=
  ⟨h.same.trans h'.same, fun hf => h'.faults (h.faults hf)⟩

theorem Turn.still {q : Ask} {x : q.Answer} (h : Turn mayFail w q x w') (hq : q.IsIdle) :
    Still w w' := ⟨h.idle hq, h.faults⟩

/-- A rotation that is answered has been refused, or it has been done. -/
theorem Turn.rotation_cases {u : Int} {old new : String} {expiresAt : Time.Instant} {done : Bool}
    (h : Turn mayFail w (.store (.rotateToken u old new expiresAt)) (.ok done) w') :
    (done = false ∧ w'.store = w.store) ∨
      (done = true ∧ w'.store =
        (w.store.mapToken old (Store.Memory.revokedAt w.now)).putToken w.now u new expiresAt) := by
  have hx : (Except.ok (w.store.rotateToken w.now u old new expiresAt).1,
      (w.store.rotateToken w.now u old new expiresAt).2) = (Except.ok done, w'.store) :=
    h.store_ok.1
  have hdone : (w.store.rotateToken w.now u old new expiresAt).1 = done :=
    Except.ok.inj (congrArg Prod.fst hx)
  have hstore : (w.store.rotateToken w.now u old new expiresAt).2 = w'.store :=
    congrArg Prod.snd hx
  rcases Store.Memory.rotateToken_cases w.store w.now u old new expiresAt with
    he | ⟨_, _, _, _, he⟩
  · rw [he] at hdone hstore
    exact Or.inl ⟨hdone.symm, hstore.symm⟩
  · rw [he] at hdone hstore
    exact Or.inr ⟨hdone.symm, hstore.symm⟩

/-- Calls to the store and the cache may fail. -/
def CallsFail (mayFail : Prop) (w : World) : Prop := mayFail ∨ w.faults ≠ []

theorem CallsFail.earlier (hc : CallsFail mayFail w') (h : w.faults = [] → w'.faults = []) :
    CallsFail mayFail w := by
  rcases hc with hm | hf
  · exact Or.inl hm
  · exact Or.inr fun hnil => hf (h hnil)

theorem Still.callsFail (h : Still w w') (hc : CallsFail mayFail w') : CallsFail mayFail w :=
  hc.earlier h.faults

theorem Turn.callsFail {q : Ask} {x : q.Answer} (h : Turn mayFail w q x w')
    (hc : CallsFail mayFail w') : CallsFail mayFail w :=
  hc.earlier h.faults

end World

namespace Session

open World (Still CallsFail)

variable {s : Settings} {t : String} {mayFail : Prop} {w₀ w w' : World}

/-! ## Parts that change nothing -/

theorem along_still (w : World) : Along (Turn mayFail) Anything Ask.IsPreliminary Still w where
  refl := .refl
  trans := .trans
  asks _ _ := trivial
  turns _ hq ht := ht.still (isIdle_of_preliminary _ hq)

/-- What the store never refuses has failed on the way only with its call. -/
theorem callsFail_of_told {q : Store.Request} {c : StoreError}
    (hq : ∀ (m : Store.Memory) now, (m.answer now q).1 ≠ .error c)
    (h : Told (Turn mayFail) Still w (.store q) (.error c) w') : CallsFail mayFail w := by
  obtain ⟨w₁, w₂, h₁, ht, _⟩ := h
  rcases ht.store_error.2 with hm | hf | ha
  · exact Or.inl hm
  · exact h₁.callsFail (Or.inr hf)
  · exact absurd ha (hq _ _)

/-! ## Failures behind the rotation -/

/-- How a refresh can fail once the token is rotated: with the call that looks the permissions up,
because the access token would end at no instant that can be held, or with the call that writes the
marker. -/
inductive FailsLate (s : Settings) (now : Time.Instant) (callsFail : Prop) : AuthError → Prop
  | lookup (h : callsFail) (c : StoreError) : FailsLate s now callsFail (.repository c)
  | issue {e : AuthError} (h : Token.expiry s .access now = .error e) : FailsLate s now callsFail e
  | mark (h : callsFail) (c : CacheError) : FailsLate s now callsFail (markFailed c)

theorem FailsLate.mono {now : Time.Instant} {p q : Prop} {e : AuthError} (h : FailsLate s now p e)
    (hpq : p → q) : FailsLate s now q e := by
  cases h with
  | lookup h c => exact .lookup (hpq h) c
  | issue h => exact .issue h
  | mark h c => exact .mark (hpq h) c

theorem remint_fails (user : User) (now : Time.Instant) (next : Token.Issued) :
    Ensures (Turn mayFail) Anything w (remint s user now next) (fun _ _ => True)
      fun e w' => Still w w' ∧ FailsLate s now (CallsFail mayFail w) e := by
  refine ensures_remint (along_still w) (fun _ => trivial) trivial (fun e w₁ h hu => ⟨h, ?_⟩)
    fun permissions access w₁ h₁ _ ha => ?_
  · cases hu with
    | @lookup role c ht =>
      exact .lookup (callsFail_of_told (q := .permissionsOf role) (fun _ _ => nofun) ht) c
    | expiry he => exact .issue he
  · refine ensures_conclude ha.expiry trivial (fun _ _ => trivial) fun c w₂ ht => ?_
    obtain ⟨hsame, hfails⟩ := ht.cache_error
    exact ⟨h₁.trans ⟨hsame, ht.faults⟩, .mark (h₁.callsFail hfails) c⟩

/-- The token has been exchanged for one that its user has never been handed: it is revoked, unless
the new one is the very same, and the new one lasts for a refresh lifetime; no other token and
nothing in the cache has changed. -/
def Lost (s : Settings) (t : String) (w w' : World) : Prop :=
  ∃ u next refreshEnd, Names s t u ∧ IsRefreshOf s u next ∧
    Token.expiry s .refresh w.now = .ok refreshEnd ∧
    (next ≠ t → w'.store.findToken t =
      (w.store.findToken t).map (Store.Memory.revokedAt w.now)) ∧
    (∃ id, w'.store.findToken next = some ⟨id, u, w.now, refreshEnd, none⟩) ∧
    (∀ t', t' ≠ t → t' ≠ next → w'.store.findToken t' = w.store.findToken t') ∧
    w'.cache = w.cache

/-- What a refresh that has failed has made of the world since `w`. -/
def FailedSince (s : Settings) (t : String) (mayFail : Prop) (w : World) (e : AuthError)
    (w' : World) : Prop :=
  SameState w w' ∨ Lost s t w w' ∧ FailsLate s w.now (CallsFail mayFail w) e

theorem lost_of_putToken {u : Int} {user : User} {refreshEnd : Time.Instant} (id : String)
    (ht : Names s t u) (hid : user.id = u) (he : Token.expiry s .refresh w.now = .ok refreshEnd)
    (hs : w'.store = (w.store.mapToken t (Store.Memory.revokedAt w.now)).putToken w.now u
      (Token.issueUntil s .refresh user.id "" [] w.now refreshEnd id).token refreshEnd)
    (hc : w'.cache = w.cache) : Lost s t w w' := by
  subst hid
  refine ⟨user.id, (Token.issueUntil s .refresh user.id "" [] w.now refreshEnd id).token,
    refreshEnd, ht, ⟨w.now, refreshEnd, id, rfl⟩, he, fun hne => ?_,
    ⟨w.store.lastTokenId + 1, ?_⟩, fun t' hold hnew => ?_, hc⟩
  · rw [hs, Store.Memory.findToken_putToken hne.symm, Store.Memory.findToken_mapToken]
  · rw [hs]
    exact Store.Memory.findToken_putToken_self _ _ _ _ _
  · rw [hs, Store.Memory.findToken_putToken hnew, Store.Memory.findToken_mapToken_of_ne hold]

theorem rotate_fails {u : Int} {user : User} {refreshEnd : Time.Instant} {id : String}
    (h₁ : Still w₀ w) (ht : Names s t u) (hid : user.id = u)
    (he : Token.expiry s .refresh w₀.now = .ok refreshEnd) :
    Ensures (Turn mayFail) Anything w (rotate s t u user w₀.now
      (Token.issueUntil s .refresh user.id "" [] w₀.now refreshEnd id)) (fun _ _ => True)
      (FailedSince s t mayFail w₀) := by
  refine ensures_rotate trivial (fun c w₂ hturn => ?_) (fun w₂ hturn => ?_) fun w₂ hturn => ?_
  · exact Or.inl (h₁.trans ⟨hturn.store_error.1, hturn.faults⟩).same
  · obtain ⟨_, hcache, hnow, hticks⟩ := hturn.store_ok
    rcases hturn.rotation_cases with ⟨_, hstore⟩ | ⟨hdone, _⟩
    · exact Or.inl (h₁.same.trans ⟨hstore, hcache, hnow, hticks⟩)
    · cases hdone
  · -- The old token is gone: whatever fails from here on, it does not come back.
    obtain ⟨_, hcache, _⟩ := hturn.store_ok
    rcases hturn.rotation_cases with ⟨hnot, _⟩ | ⟨_, hstore⟩
    · cases hnot
    rw [h₁.same.store, h₁.same.now] at hstore
    refine (remint_fails user w₀.now _).imp (fun _ _ _ => trivial) fun e w' h => Or.inr ?_
    obtain ⟨h, hlate⟩ := h
    refine ⟨lost_of_putToken id ht hid he ?_ ?_, hlate.mono fun hc => ?_⟩
    · rw [h.same.store, hstore]
      rfl
    · rw [h.same.cache, hcache, h₁.same.cache]
    · exact h₁.callsFail (hturn.callsFail hc)

theorem refresh_fails (t : String) :
    Ensures (Turn mayFail) Anything w (refresh s t) (fun _ _ => True)
      (FailedSince s t mayFail w) := by
  refine ensures_refresh (along_still w) (fun _ _ h => Or.inl h.same)
    fun u user now next w₁ h₁ hx => ?_
  obtain rfl : now = w.now := now_of_told (fun _ h => h.same.now) hx.clock
  have hid : user.id = u := (Store.Memory.HasUser.of_findUser
    (findUser_of_told (fun _ h => .of_eq h.same.store) hx.account)).2
  obtain ⟨refreshEnd, id, he, _, rfl⟩ := hx.issued
  exact rotate_fails h₁ hx.names hid he

/-- **A refresh that fails** leaves its token as usable as it was and writes nothing, unless it has
failed behind the rotation. Then the token is revoked, and its user has another one that nobody has
been handed: the call that looks the permissions up has failed, or the one that writes the marker,
or the access token would end at no instant that can be held. -/
theorem failed_refresh_keeps_or_loses {e : AuthError} (hactive : w.store.isUsable w.now t = true)
    (hl : Dialog.Leads (Turn mayFail) w (refresh s t).run (.error e) w') :
    (w'.store = w.store ∧ w'.cache = w.cache ∧ w'.store.isUsable w'.now t = true) ∨
      Lost s t w w' ∧ FailsLate s w.now (CallsFail mayFail w) e := by
  have hend : FailedSince s t mayFail w e w' := (refresh_fails t).holds.of_leads hl
  rcases hend with hsame | hlost
  · refine Or.inl ⟨hsame.store, hsame.cache, ?_⟩
    rw [hsame.store, hsame.now]
    exact hactive
  · exact Or.inr hlost

/-- The small session when its user's account is gone. -/
def sampleOrphan : World :=
  { sampleSession with store := { sampleSession.store with rows := [] } }

theorem findToken_sampleOrphan : sampleOrphan.store.findToken sampleToken = some sampleRecord :=
  findToken_sampleSession

theorem isUsable_sampleToken {m : Store.Memory} (h : m.findToken sampleToken = some sampleRecord) :
    m.isUsable .epoch sampleToken = true := by
  unfold Store.Memory.isUsable
  rw [h]
  exact sampleRecord_isActive

/-- The refresh fails, since there is no user, and the token stays as usable as it was. -/
theorem sampleOrphan_keeps_token : ∃ e w',
    sampleOrphan.run false (refresh sampleSettings sampleToken).run = (.error e, w') ∧
      w'.store = sampleOrphan.store ∧ w'.store.isUsable w'.now sampleToken = true := by
  have hnot : ¬ ∃ claims record, MayRefresh sampleSettings sampleOrphan sampleToken claims
      record := by
    rintro ⟨claims, record, h⟩
    obtain ⟨r, hr, _⟩ := h.account
    cases hr
  have hr : Token.expiry sampleSettings .refresh sampleOrphan.now = .ok sampleRefreshEnd := rfl
  obtain ⟨e, w', hrun⟩ := run_refresh_of_not_mayRefresh rfl hr hnot
  have hl := World.leads_run False sampleOrphan (refresh sampleSettings sampleToken).run
  rw [hrun] at hl
  rcases failed_refresh_keeps_or_loses (isUsable_sampleToken findToken_sampleOrphan) hl with
    ⟨hstore, _, husable⟩ | ⟨_, hlate⟩
  · exact ⟨e, w', hrun, hstore, husable⟩
  · have hnone : ¬ CallsFail False sampleOrphan := by
      rintro (h | h)
      · exact h
      · exact h rfl
    cases hlate with
    | lookup h => exact absurd h hnone
    | issue h => cases h
    | mark h => exact absurd h hnone

/-- Settings under which no access token ever ends at an instant that can be held. -/
def sampleUnbounded : Settings :=
  { sampleSettings with accessLifetime := .ofSeconds 18446744073709551615 }

/-- A refresh can fail and take its token with it: the token could be used, no access token can be
issued, and the token is revoked. -/
theorem sampleUnbounded_loses_token :
    let r := sampleSession.run false (refresh sampleUnbounded sampleToken).run
    sampleSession.store.isUsable sampleSession.now sampleToken = true ∧
      r.1 = .error (.tokenCreation "token lifetime out of range") ∧
      r.2.store.isUsable r.2.now sampleToken = false := by
  intro r
  have huser : sampleSession.store.findUser 1 = some sampleUser := rfl
  have hmay : sampleSession.store.MayRotate .epoch sampleUser.id sampleToken :=
    ⟨sampleRecord, findToken_sampleSession, rfl, rfl, by decide⟩
  have hsecret : Token.secretOf sampleUnbounded .refresh =
      Token.secretOf sampleSettings .refresh := rfl
  have hverify : Token.verify sampleToken .refresh (Token.secretOf sampleUnbounded .refresh)
      sampleSession.now.unixSeconds = .ok (sampleRefreshClaims 1 "t") := by
    rw [hsecret]
    exact verify_sampleToken
  have hr : r = (.error (.tokenCreation "token lifetime out of range"),
      rotatedWorld sampleUnbounded sampleSession sampleToken sampleUser sampleRefreshEnd) := by
    refine (run_refresh_of_found (w := sampleSession) rfl hverify findToken_sampleSession rfl
      (by decide) huser).trans ?_
    exact run_exchange_of_unissued (w := sampleSession) rfl hmay rfl rfl
  have hrevoked : r.2.store.findToken sampleToken =
      some (Store.Memory.revokedAt .epoch sampleRecord) := by
    rw [hr]
    exact Store.Memory.findToken_rotated findToken_sampleSession (sample_token_ne (by decide)) _ _ _
  refine ⟨isUsable_sampleToken findToken_sampleSession, by rw [hr], ?_⟩
  unfold Store.Memory.isUsable
  rw [hrevoked]
  rfl

end Session

end SignIn
