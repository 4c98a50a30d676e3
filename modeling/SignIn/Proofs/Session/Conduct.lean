-- How acts behave in their course. Whatever an act asks to be changed is the
-- concern of the one user that it acts for, and an act that is rejected has
-- changed nothing: all checks come before the first write, and what is written
-- first is found again by what comes behind it.
import SignIn.Proofs.Course
import SignIn.Proofs.Session.Acts
import SignIn.Proofs.Store.Coherence

namespace SignIn

/-- Whether the failure says that what was asked for is not to be had, rather than that something
has gone wrong on the way. -/
def AuthError.isRejection : AuthError → Bool
  | .validation _ | .parse _ | .invalidToken _ | .tokenOwnership | .refreshTokenNotFound
  | .refreshTokenRevoked | .refreshTokenExpired | .refreshTokenInvalid | .userNotFound
  | .invalidCredentials | .codeInvalidOrExpired | .codeMismatch | .repository (.conflict _) => true
  | _ => false

namespace Session

open Operation
open Dialog (Ensures Along ensures_pure ensures_bind ensures_failIf ensures_orFail)
open Text (normalize)
open World (InCourse Aged)

/-! ## Who is acted for -/

/-- The user that a call acts for, if there is one: whom it names, whom its token names, or whose
email or phone it names. -/
def Call.actor (s : Settings) (w : World) : Call → Option Int
  | .register _ => some (w.store.lastUserId + 1)
  | .login email _ => (w.store.findCredentials (normalize email)).map Credentials.id
  | .refresh t =>
    match Token.Signed.ofToken t (Token.secretOf s .refresh) with
    | .ok signed => some signed.claims.userId
    | .error _ => none
  | .logout u _ | .revokeAll u | .deleteAccount u | .isAlive u _ => some u
  | .confirmCode identifier _ => (w.store.findByPhone (normalize identifier)).map User.id
  | .sendCode _ | .purge | .profile _ | .emailExists _ => none

/-- The user that an act acts for, if there is one. -/
def Act.actor (s : Settings) (w : World) : Act → Option Int
  | .call c => c.actor s w
  | .mint u _ _ => some u

/-- Whether an act ends the sessions of its user. -/
def Act.endsSessions : Act → Bool
  | .call (.logout _ _) | .call (.revokeAll _) | .call (.deleteAccount _) => true
  | _ => false

/-- The identifier of the challenge that an act is about, if it is about one. -/
def Act.challenge : Act → Option String
  | .call (.sendCode identifier) | .call (.confirmCode identifier _) => some (normalize identifier)
  | _ => none

/-- The key is that of the challenge that the act is about. -/
def Act.IsChallengeKey (s : Settings) (a : Act) (key : String) : Prop :=
  ∃ identifier, a.challenge = some identifier ∧ identifier ≠ "" ∧ key = s.codeKey identifier

/-- The questions that an act may ask which has begun in `w₀`, as far as anything may change with
them: they are the concern of the user that it acts for, or of the challenge that it is about. -/
def Act.Concerns (s : Settings) (a : Act) (w₀ w : World) : Ask → Prop
  | .store (.createUser _) => a.actor s w₀ = some (w.store.lastUserId + 1)
  | .store (.softDelete u) | .store (.revokeAll u) => a.actor s w₀ = some u
  | .store (.createToken u t _) => a.actor s w₀ = some u ∧ IsRefreshOf s u t
  | .store (.rotateToken u old new _) =>
    a.actor s w₀ = some u ∧ Names s old u ∧ IsRefreshOf s u new
  | .store (.revokeToken t) => ∃ u, a.actor s w₀ = some u ∧ Names s t u
  | .store (.purge _) => a = .call .purge
  | .cache (.delete key) =>
    (a.endsSessions = true ∧ ∃ u, a.actor s w₀ = some u ∧ key = s.accessKey u) ∨
      a.IsChallengeKey s key
  | .cache q => (∃ u, a.actor s w₀ = some u ∧ q.key = s.accessKey u) ∨ a.IsChallengeKey s q.key
  | .deliver _ _ => ∃ identifier, a = .call (.sendCode identifier) ∧ normalize identifier ≠ ""
  | _ => True

/-- A question to the cache is about the marker of the act's user, or about its challenge. -/
theorem Act.Concerns.key {s : Settings} {a : Act} {w₀ w : World} {q : Cache.Request}
    (h : a.Concerns s w₀ w (.cache q)) :
    (∃ u, a.actor s w₀ = some u ∧ q.key = s.accessKey u) ∨ a.IsChallengeKey s q.key := by
  cases q with
  | delete => exact h.imp_left And.right
  | set | get | timeLeft => exact h

/-! ## What a rejection leaves -/

/-- Nothing has changed but that entries may have been dropped from the cache whose time was
over. -/
structure Unharmed (w w' : World) : Prop where
  store : w'.store = w.store
  cache : w.cache.Sheds w'.ticks w'.cache

variable {s : Settings} {a : Act} {w₀ w w' : World} {u : Int} {t : String}

theorem Unharmed.refl (w : World) : Unharmed w w := ⟨rfl, .refl _ _⟩

theorem Unharmed.aged (h : Unharmed w₀ w) (ha : Aged w w') : Unharmed w₀ w' := by
  refine ⟨ha.store.trans h.store, ?_⟩
  rw [ha.cache]
  exact h.cache.mono ha.ticks

theorem unharmed_of_aged (h : Aged w w') : Unharmed w w' := (Unharmed.refl w).aged h

/-- What the cache has been asked leaves the world unharmed if it leaves the cache so. -/
theorem Unharmed.of_cache (h : Unharmed w₀ w) {q : Cache.Request} {x : q.Answer}
    (ht : InCourse w (.cache q) (.ok x) w')
    (hq : w₀.cache.Sheds w'.ticks w.cache → (w.cache.answer w'.ticks q).1 = x →
      w₀.cache.Sheds w'.ticks (w.cache.answer w'.ticks q).2) : Unharmed w₀ w' := by
  obtain ⟨ha, hs, hticks⟩ := ht.cache_ok
  refine ⟨hs.trans h.store, ?_⟩
  have hsheds := hq (h.cache.mono hticks) (congrArg Prod.fst ha)
  rw [ha] at hsheds
  exact hsheds

/-- However a part of an act ends, it has asked what the act may ask, and if the act is rejected
with it, the world is unharmed since `w₀`. -/
abbrev Acting {α : Type} (s : Settings) (a : Act) (w₀ w : World) (op : Operation α)
    (post : α → World → Prop) : Prop :=
  Ensures InCourse (a.Concerns s w₀) w op post
    fun e w' => e.isRejection = true → Unharmed w₀ w'

/-- However a part of an act ends, it has asked what the act may ask, and the act is not rejected
with it. -/
abbrev Unrejected {α : Type} (s : Settings) (a : Act) (w₀ w : World) (op : Operation α)
    (post : α → World → Prop) : Prop :=
  Ensures InCourse (a.Concerns s w₀) w op post fun e _ => e.isRejection = false

theorem Unrejected.acting {α : Type} {op : Operation α} {post post' : α → World → Prop}
    (h : Unrejected s a w₀ w op post) (hp : ∀ x w', post x w' → post' x w') :
    Acting s a w₀ w op post' := by
  refine h.imp hp fun e w' hfalse htrue => ?_
  rw [hfalse] at htrue
  cases htrue

/-! ## Parts that change nothing -/

/-- What changes nothing may be asked by every act. -/
theorem Act.along_aged (a : Act) (w₀ w : World) {kind : Ask → Prop}
    (hidle : ∀ q, kind q → q.IsIdle)
    (hd : ∀ q, kind q → ∀ identifier code, q ≠ .deliver identifier code) :
    Along InCourse (a.Concerns s w₀) kind Aged w where
  refl := .refl
  trans := .trans
  asks := by
    intro w' q _ hq
    cases q with
    | deliver => exact absurd rfl (hd _ hq _ _)
    | cache => exact (hidle _ hq).elim
    | store q =>
      have hl : q.IsLookup := hidle _ hq
      cases q with
      | findUser | findCredentials | findByPhone | emailExists | permissionsOf | findToken =>
        exact trivial
      | _ => exact hl.elim
    | clock | freshId | freshCode | freshSalt => exact trivial
  turns _ hq ht := ht.aged (hidle _ hq)

theorem Act.along_aged_preliminary (a : Act) (w₀ w : World) :
    Along InCourse (a.Concerns s w₀) Ask.IsPreliminary Aged w :=
  a.along_aged w₀ w isIdle_of_preliminary fun q hq => Ask.preliminary_cases
    (motive := fun q => ∀ identifier code, q ≠ .deliver identifier code) (fun _ _ => nofun)
    (fun _ _ => nofun) (fun _ _ _ => nofun) (fun _ _ _ => nofun) (fun _ _ _ => nofun) q hq

/-! ## Minting -/

theorem isRejection_storeFailed (e : StoreError) : (storeFailed e).isRejection = false := by
  cases e <;> rfl

theorem isRejection_markFailed (e : CacheError) : (markFailed e).isRejection = false := by
  cases e <;> rfl

/-- Whatever is in the way of issuing a token, it is no rejection. -/
theorem isRejection_of_unissued {kind : TokenKind} {now : Time.Instant} {e : AuthError}
    (h : Unissued InCourse Aged s kind now w w' e) : e.isRejection = false := by
  cases h with
  | lookup h =>
    rw [World.cancelled_of_told h trivial]
    rfl
  | expiry h =>
    unfold Token.expiry at h
    split at h
    · cases h
    · cases h
      rfl

/-- Who has an account is found. -/
theorem exists_findUser_of_hasUser {m : Store.Memory} (h : m.HasUser u) :
    ∃ user, m.findUser u = some user := by
  obtain ⟨r, hr, hid⟩ := h
  refine Option.isSome_iff_exists.1 ?_
  unfold Store.Memory.findUser
  rw [Option.isSome_map, List.find?_isSome]
  exact ⟨r, hr, by simp [hid]⟩

/-- Only for a user who is not there, minting is rejected. -/
theorem isRejection_of_unprepared {now : Time.Instant} {e : AuthError} (hu : w.store.HasUser u)
    (h : Unprepared InCourse Aged s u now w w' e) : e.isRejection = false := by
  cases h with
  | lookup h =>
    rw [World.cancelled_of_told h trivial]
    rfl
  | unknown h =>
    obtain ⟨user, huser⟩ := exists_findUser_of_hasUser hu
    have hlookup : w.store.findUser u = none :=
      Except.ok.inj (World.answer_of_told h trivial w.now)
    rw [hlookup] at huser
    cases huser
  | unissued h => exact isRejection_of_unissued h

theorem conclude_conduct {now : Time.Instant} {access refresh : Token.Issued}
    (hu : a.actor s w₀ = some u) (he : Token.expiry s .access now = .ok access.expiresAt) :
    Unrejected s a w₀ w (conclude s u now access refresh) fun _ _ => True :=
  ensures_conclude he (Or.inl ⟨u, hu, rfl⟩) (fun _ _ => trivial) fun c _ _ =>
    isRejection_markFailed c

/-- Minting is rejected only for a user who is not there, before anything is written. -/
theorem createPair_conduct (hu : a.actor s w₀ = some u) (email : String) (now : Time.Instant)
    (h : Unharmed w₀ w ∨ w.store.HasUser u) :
    Acting s a w₀ w (createPair s u email now) fun _ _ => True := by
  refine ensures_createPair (a.along_aged_preliminary w₀ w) (fun e w₁ ha he hr => ?_)
    fun access refresh w₁ _ hp => ?_
  · rcases h with h | h
    · exact h.aged ha
    · rw [isRejection_of_unprepared h he] at hr
      cases hr
  · obtain ⟨user, permissions, _, _, haccess, ⟨refreshEnd, refreshId, _, _, rfl⟩⟩ := hp
    refine ensures_bind (ensures_storeOr ⟨hu, _, _, _, rfl⟩ (fun _ w₂ _ =>
      (conclude_conduct hu haccess.expiry).acting fun _ _ h => h) fun e _ _ hr => ?_)
    rw [isRejection_storeFailed] at hr
    cases hr

/-! ## Operations that mint -/

theorem login_conduct (email password : String) :
    Acting s (.call (.login email password)) w w (login s email password) fun _ _ => True := by
  have halong : Along InCourse (Act.Concerns s (.call (.login email password)) w)
      (LoginAsks email) Aged w := by
    refine Act.along_aged _ w w ?_ ?_
    · rintro _ (rfl | rfl) <;> exact trivial
    · rintro _ (rfl | rfl) <;> exact fun _ _ => nofun
  refine ensures_login halong (fun _ _ h _ => unharmed_of_aged h)
    fun credentials now w₁ h₁ hc _ => ?_
  have hu : Act.actor s w (.call (.login email password)) = some credentials.id := by
    have hlookup : w.store.findCredentials (normalize email) = some credentials :=
      Except.ok.inj (World.answer_of_told hc trivial w.now)
    change (w.store.findCredentials (normalize email)).map Credentials.id = _
    rw [hlookup]
    rfl
  exact createPair_conduct hu _ now (Or.inl (unharmed_of_aged h₁))

/-- A registration is rejected before the account is created, or with the attempt to create it. -/
theorem register_conduct (r : Registration) :
    Acting s (.call (.register r)) w w (register s r) fun _ _ => True := by
  have h₀ := Unharmed.refl w
  refine ensures_register (fun _ _ _ => h₀) trivial fun birthDate salt w₁ _ hsalt => ?_
  have ha₁ : Aged w w₁ := hsalt.aged (q := .freshSalt) trivial
  have hnext : Act.actor s w (.call (.register r)) = some (w₁.store.lastUserId + 1) := by
    rw [ha₁.store]
    rfl
  refine ensures_bind (ensures_storeOr hnext (fun u w₂ ht => ?_) fun e w₂ ht _ => ?_)
  · obtain ⟨now, hx, _⟩ := ht.store_ok
    obtain ⟨hid, hstore⟩ := Store.Memory.createUser_of_ok (congrArg Prod.fst hx)
    have hu := hnext.trans (congrArg some hid.symm)
    have hthere : w₂.store.HasUser u := by
      have hw₂ : (w₁.store.createUser now _).2 = w₂.store := congrArg Prod.snd hx
      rw [← hw₂, hstore, hid]
      refine ⟨_, Store.Memory.mem_liveRows.2 ⟨List.mem_append_right _ List.mem_cons_self, rfl⟩, rfl⟩
    refine ensures_bind (InCourse.ensures_idle trivial trivial fun now₃ w₃ ha₃ => ?_)
    rw [← ha₃.store] at hthere
    exact createPair_conduct hu _ now₃ (Or.inr hthere)
  · exact h₀.aged (ha₁.trans ht.store_error.1)

/-- Once the token is rotated, the exchange is not rejected. -/
theorem remint_conduct {user : User} (hu : a.actor s w₀ = some user.id) (now : Time.Instant)
    (next : Token.Issued) : Unrejected s a w₀ w (remint s user now next) fun _ _ => True :=
  ensures_remint (a.along_aged_preliminary w₀ w) (fun _ => trivial) trivial
    (fun _ _ _ he => isRejection_of_unissued he)
    fun _ _ _ _ _ haccess => conclude_conduct hu haccess.expiry

theorem rotate_conduct {user : User} {now refreshEnd : Time.Instant} {refreshId : String}
    (hu : a.actor s w₀ = some user.id) (ht : Names s t user.id) (h : Unharmed w₀ w) :
    Acting s a w₀ w (rotate s t user.id user now
      (Token.issueUntil s .refresh user.id "" [] now refreshEnd refreshId)) fun _ _ => True :=
  -- A rotation that is not done leaves the store as it is.
  ensures_rotate ⟨hu, ht, _, _, _, rfl⟩ (fun _ _ hturn _ => h.aged hturn.store_error.1)
    (fun _ hturn _ => h.aged (hturn.aged_of_store fun _ hx =>
      Store.Memory.rotateToken_of_false (Except.ok.inj hx)))
    fun _ _ => (remint_conduct hu now _).acting fun _ _ h => h

theorem refresh_conduct (t : String) :
    Acting s (.call (.refresh t)) w w (refresh s t) fun _ _ => True := by
  refine ensures_refresh (Act.along_aged_preliminary _ w w) (fun _ _ h _ => unharmed_of_aged h)
    fun u user now next w₁ h₁ hx => ?_
  obtain ⟨_, rfl⟩ : w.store.HasUser u ∧ user.id = u :=
    Store.Memory.HasUser.of_findUser
      (Except.ok.inj (World.answer_of_told hx.account trivial w.now))
  obtain ⟨refreshEnd, refreshId, _, _, rfl⟩ := hx.issued
  refine rotate_conduct ?_ hx.names (unharmed_of_aged h₁)
  obtain ⟨signed, hsigned, hnamed⟩ := hx.names
  change (match Token.Signed.ofToken t (Token.secretOf s .refresh) with
    | .ok signed => some signed.claims.userId
    | .error _ => none) = some user.id
  rw [hsigned]
  exact congrArg some hnamed

/-! ## Operations that mint nothing -/

/-- A token is revoked by the user that it names, and only once it is known to be that user's. -/
theorem logout_conduct (u : Int) (t : String) :
    Acting s (.call (.logout u t)) w w (logout s u t) fun _ _ => True := by
  have halong : Along InCourse (Act.Concerns s (.call (.logout u t)) w) (fun q => q = .clock)
      Aged w :=
    Act.along_aged _ w w (fun _ hq => hq ▸ trivial) fun _ hq _ _ => hq ▸ nofun
  refine ensures_logout halong (fun _ _ h _ => unharmed_of_aged h) fun w₁ h₁ hnames => ?_
  refine ensures_bind (ensures_storeOr ⟨u, rfl, hnames⟩ (fun _ w₂ _ => ?_) fun e w₂ ht _ =>
    unharmed_of_aged (h₁.trans ht.store_error.1))
  exact ensures_bind (ensures_cacheOr (Or.inl ⟨rfl, u, rfl, rfl⟩)
    (fun _ _ _ => ensures_pure trivial) fun _ _ _ => nofun)

theorem revokeAll_conduct (hu : a.actor s w₀ = some u) (hends : a.endsSessions = true) :
    Unrejected s a w₀ w (revokeAll s u) fun _ _ => True := by
  unfold revokeAll
  refine ensures_bind (ensures_storeOr hu (fun _ w₁ _ => ?_) fun e w₁ ht => ?_)
  · exact ensures_bind (ensures_cacheOr (Or.inl ⟨hends, u, hu, rfl⟩)
      (fun _ _ _ => ensures_pure trivial) fun _ _ _ => rfl)
  · rcases ht.store_error.2 with rfl | ⟨now, he⟩
    · rfl
    · cases he

theorem deleteAccount_conduct (u : Int) :
    Acting s (.call (.deleteAccount u)) w w (deleteAccount s u) fun _ _ => True := by
  have hu : Act.actor s w (.call (.deleteAccount u)) = some u := rfl
  unfold deleteAccount
  refine ensures_bind (ensures_storeOr hu (fun found w₁ ht => ?_) fun e w₁ ht _ => ?_)
  · refine ensures_bind (ensures_failIf (fun hnone _ => ?_) fun _ => ?_)
    · -- A deletion that finds nobody leaves the store as it is.
      obtain rfl : found = false := (Bool.not_eq_true' found).mp hnone
      exact unharmed_of_aged (ht.aged_of_store fun _ hx =>
        Store.Memory.softDelete_of_false (Except.ok.inj hx))
    · exact ensures_bind ((revokeAll_conduct hu rfl).acting fun _ _ _ => ensures_pure trivial)
  · exact unharmed_of_aged ht.store_error.1

/-! ## One-time codes -/

/-- Sending a code is rejected only for an identifier without text, before anything is asked. -/
theorem sendCode_conduct (identifier : String) :
    Ensures InCourse (Act.Concerns s (.call (.sendCode identifier)) w) w (sendCode s identifier)
      (fun _ _ => True) fun e w' => e.isRejection = true →
        normalize identifier = "" ∧ Unharmed w w' := by
  unfold sendCode
  refine ensures_bind (ensures_failIf (fun hblank _ => ?_) fun hthere => ?_)
  · exact ⟨String.isEmpty_iff.1 hblank, .refl w⟩
  have hthere : normalize identifier ≠ "" := by simpa using hthere
  have hcode : Ensures InCourse (Act.Concerns s (.call (.sendCode identifier)) w) w
      (newCode s.fixedCode) (fun _ _ => True) fun (e : AuthError) _ => e.isRejection = false := by
    unfold newCode
    split
    · exact ensures_pure trivial
    · exact InCourse.ensures_idle trivial trivial fun _ _ _ => trivial
  refine ensures_bind (hcode.imp (fun code w₁ _ => ?_) fun e _ hfalse hr => ?_)
  · refine ensures_bind (ensures_cacheOr (Or.inr ⟨_, rfl, hthere, rfl⟩) (fun _ w₂ _ => ?_)
      fun _ _ _ => nofun)
    unfold deliver
    refine ⟨And.intro ⟨identifier, rfl, hthere⟩ fun x w₃ _ => ?_⟩
    cases x with
    | ok => exact trivial
    | error e =>
      -- Whatever goes wrong with a delivery is a failed delivery.
      cases e <;> exact nofun
  · rw [hfalse] at hr
    cases hr

/-- A code is refused before it is consumed, or because it is over by then. Whoever is found by
phone behind that is found by id, too. -/
theorem confirmCode_conduct (identifier code : String) :
    Acting s (.call (.confirmCode identifier code)) w w (confirmCode s identifier code)
      fun _ _ => True := by
  have h₀ := Unharmed.refl w
  unfold confirmCode
  refine ensures_bind (ensures_failIf (fun _ _ => h₀) fun hthere => ?_)
  have hthere : normalize identifier ≠ "" := by
    simpa using (Bool.or_eq_false_iff.1 hthere).1
  refine ensures_bind (ensures_cacheOr (Or.inr ⟨_, rfl, hthere, rfl⟩) (fun stored w₁ ht₁ => ?_)
    fun _ _ _ => nofun)
  have h₁ : Unharmed w w₁ := h₀.of_cache ht₁ fun hs _ => hs.live _
  refine ensures_bind (ensures_orFail (fun code' _ => ?_) fun _ _ => h₁)
  refine ensures_bind (ensures_failIf (fun _ _ => h₁) fun _ => ?_)
  refine ensures_bind (ensures_cacheOr (Or.inr ⟨_, rfl, hthere, rfl⟩) (fun removed w₂ ht₂ => ?_)
    fun _ _ _ => nofun)
  refine ensures_bind (ensures_failIf (fun hover _ => h₁.of_cache ht₂ fun hs hd => ?_) fun _ => ?_)
  · exact hs.delete (hd.trans ((Bool.not_eq_true' removed).mp hover))
  have hstore : w₂.store = w.store := ht₂.cache_ok.2.1.trans ht₁.cache_ok.2.1
  refine ensures_bind (InCourse.ensures_lookup trivial trivial (fun found w₃ ha₃ hx => ?_)
    fun _ _ => nofun)
  cases found with
  | none => exact ensures_pure trivial
  | some user =>
    have hlookup : w₂.store.findByPhone (normalize identifier) = some user := Except.ok.inj hx
    have hu : Act.actor s w (.call (.confirmCode identifier code)) = some user.id := by
      change (w.store.findByPhone (normalize identifier)).map User.id = _
      rw [← hstore, hlookup]
      rfl
    refine ensures_bind (InCourse.ensures_idle trivial trivial fun now w₄ ha₄ => ?_)
    have hthere : w₄.store.HasUser user.id := by
      obtain ⟨r, hr, rfl⟩ := Store.Memory.mem_of_findByPhone hlookup
      rw [(ha₃.trans ha₄).store]
      exact ⟨r, hr, rfl⟩
    exact ensures_bind ((createPair_conduct hu user.email now (Or.inr hthere)).imp
      (fun _ _ _ => ensures_pure trivial) fun _ _ he => he)

/-! ## Looking -/

theorem isAlive_conduct (u : Int) (id : String) :
    Acting s (.call (.isAlive u id)) w w (isAlive s u id) fun _ _ => True := by
  unfold isAlive
  refine ensures_bind (ensures_cacheOr (Or.inl ⟨u, rfl, rfl⟩) (fun left w₁ _ => ?_)
    fun _ _ _ => nofun)
  cases left with
  | none => exact ensures_pure trivial
  | some left =>
    dsimp only
    split
    · exact ensures_pure trivial
    · exact ensures_bind (ensures_cacheOr (Or.inl ⟨u, rfl, rfl⟩)
        (fun _ _ _ => ensures_pure trivial) fun _ _ _ => nofun)

theorem profile_conduct (u : Int) : Acting s a w w (profile u) fun _ _ => True := by
  unfold profile
  refine ensures_bind (InCourse.ensures_lookup trivial trivial (fun _ w₁ ha _ => ?_)
    fun _ _ => nofun)
  exact ensures_orFail (fun _ _ => trivial) fun _ _ => unharmed_of_aged ha

/-! ## Every act -/

theorem conduct_of_some {op : Operation TokenPair} (h : Acting s a w w op fun _ _ => True) :
    Acting s a w w (do return some (← op)) fun _ _ => True :=
  ensures_bind (h.imp (fun _ _ _ => ensures_pure trivial) fun _ _ he => he)

theorem conduct_of_none {α : Type} {op : Operation α} (h : Acting s a w w op fun _ _ => True) :
    Acting s a w w (do let _ ← op; return (none : Option TokenPair)) fun _ _ => True :=
  ensures_bind (h.imp (fun _ _ _ => ensures_pure trivial) fun _ _ he => he)

/-- An act asks only what is its user's concern, and if it is rejected, it has changed nothing. -/
theorem Act.conduct (s : Settings) (a : Act) (w : World) :
    Acting s a w w (a.operation s) fun _ _ => True := by
  cases a with
  | mint u email now =>
    exact conduct_of_some (createPair_conduct rfl email now (Or.inl (.refl w)))
  | call c =>
    cases c with
    | register r => exact conduct_of_some (register_conduct r)
    | login email password => exact conduct_of_some (login_conduct email password)
    | refresh t => exact conduct_of_some (refresh_conduct t)
    | logout u t => exact conduct_of_none (logout_conduct u t)
    | sendCode identifier =>
      exact conduct_of_none ((sendCode_conduct identifier).imp (fun _ _ h => h)
        fun _ _ h hr => (h hr).2)
    | confirmCode identifier code =>
      exact ensures_bind ((confirmCode_conduct identifier code).imp
        (fun _ _ _ => ensures_pure trivial) fun _ _ he => he)
    | revokeAll u => exact conduct_of_none ((revokeAll_conduct rfl rfl).acting fun _ _ h => h)
    | deleteAccount u => exact conduct_of_none (deleteAccount_conduct u)
    | purge =>
      refine conduct_of_none (ensures_storeOr rfl (fun _ _ _ => trivial) fun _ _ ht _ => ?_)
      exact unharmed_of_aged ht.store_error.1
    | profile u => exact conduct_of_none (profile_conduct u)
    | emailExists email =>
      exact conduct_of_none (InCourse.ensures_lookup trivial trivial (fun _ _ _ _ => trivial)
        fun _ _ => nofun)
    | isAlive u id => exact conduct_of_none (isAlive_conduct u id)

/-! ## States that acts lead to -/

/-- What can become of a world while acts are carried out one after the other, each in its course,
and time passes. -/
inductive Visited (s : Settings) (w₀ : World) : World → Prop
  | start : Visited s w₀ w₀
  | act {w w' : World} {r : Reply} (h : Visited s w₀ w) (a : Act)
    (hl : Dialog.Leads InCourse w (a.program s) r w') : Visited s w₀ w'
  | pass {w : World} (h : Visited s w₀ w) (wallNanos : Int) (tickNanos : Nat) :
    Visited s w₀ (w.advance wallNanos tickNanos)

/-- What every act keeps, and time does not change, holds of all that comes of a world. -/
theorem Visited.keeps {I : World → Prop} (h : Visited s w₀ w)
    (hI : ∀ (a : Act) w₁ w₂ q x w₃, I w₂ → a.Concerns s w₁ w₂ q → InCourse w₂ q x w₃ → I w₃)
    (hpass : ∀ w wallNanos tickNanos, I w → I (w.advance wallNanos tickNanos)) (hw : I w₀) :
    I w := by
  induction h with
  | start => exact hw
  | act h a hl ih =>
    exact (a.conduct s _).holds.keeps hl (fun _ _ _ _ hi hc ht => hI a _ _ _ _ _ hi hc ht) ih
  | pass h wallNanos tickNanos ih => exact hpass _ wallNanos tickNanos ih

/-- All that acts make of the store, inquiries make of it. -/
theorem Visited.exists_inquiries (h : Visited s w₀ w) :
    ∃ inquiries, w.store = w₀.store.afterAll inquiries := by
  refine h.keeps (I := fun w => ∃ inquiries, w.store = w₀.store.afterAll inquiries)
    (fun _ _ _ q _ w' hi _ ht => ?_) (fun _ _ _ hi => hi) ⟨[], rfl⟩
  obtain ⟨inquiries, hi⟩ := hi
  rcases ht.store_eq with hs | ⟨r, now, _, hs⟩
  · exact ⟨inquiries, hs.trans hi⟩
  · refine ⟨inquiries ++ [⟨r, now, false⟩], ?_⟩
    rw [Store.Memory.afterAll_append, ← hi]
    exact hs

/-- However accounts are looked up in the course of acts, the lookups agree. -/
theorem Visited.lookupsAgree (h : Visited s w₀ w) (hw : IsFresh w₀) : w.store.LookupsAgree := by
  obtain ⟨inquiries, hs⟩ := h.exists_inquiries
  obtain ⟨⟨roles, defaultRole, hempty⟩, _⟩ := hw
  rw [hs, hempty]
  exact Store.Memory.lookupsAgree_afterAll roles defaultRole inquiries

end Session

end SignIn
