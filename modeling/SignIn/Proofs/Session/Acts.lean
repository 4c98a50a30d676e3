-- What the service is made to do: the calls of its clients, and pairs minted
-- for a user directly. What an act may ask depends on the state that it asks
-- in: whoever gets a token has an account there.
import SignIn.Proofs.Asked
import SignIn.Proofs.Store.Owners
import SignIn.Proofs.Store.Records
import SignIn.Proofs.Cache.Consuming
import SignIn.Proofs.Session.Markers
import SignIn.Proofs.Session.Refreshing

namespace SignIn

/-- Whether the failure says that a one-time code has not been taken. -/
def AuthError.isOfChallenge : AuthError → Bool
  | .validation _ | .codeInvalidOrExpired | .codeMismatch => true
  | _ => false

namespace Session

open Operation
open Dialog (Ensures Along ensures_pure ensures_bind ensures_failIf ensures_orFail)
open Store.Memory (SameAccounts SparesAccounts)
open Text (normalize)
open World (Turn SameState)

/-- An act of the service: a call, or the minting of a pair for a user directly. -/
inductive Act
  | call (c : Call)
  | mint (userId : Int) (email : String) (now : Time.Instant)
  deriving DecidableEq

/-- The operation that is carried out. -/
def Act.operation (s : Settings) : Act → Operation (Option TokenPair)
  | .call c => c.operation s
  | .mint userId email now => do return some (← createPair s userId email now)

/-- The operation that is carried out, as the dialog that it leads. -/
def Act.program (s : Settings) (a : Act) : Program Reply := (a.operation s).run

/-! ## What may be asked -/

/-- The text is a refresh token that was issued to the user. -/
def IsRefreshOf (s : Settings) (u : Int) (refresh : String) : Prop :=
  ∃ now expiresAt id, refresh = (Token.issueUntil s .refresh u "" [] now expiresAt id).token

/-- The questions an act may ask in a state of the world, as far as they create or delete accounts,
store refresh tokens, or store or remove entries of the cache. -/
def Act.MayAsk (s : Settings) (a : Act) (w : World) : Ask → Prop
  | .store (.createUser new) => ∃ r, a = .call (.register r) ∧ new.email = normalize r.email ∧
    new.phone = Text.trim r.phone
  | .store (.softDelete u) => a = .call (.deleteAccount u)
  | .store (.createToken u t _) => w.store.HasUser u ∧ IsRefreshOf s u t
  | .store (.rotateToken u _ t _) => w.store.HasUser u ∧ IsRefreshOf s u t
  | .cache (.set key _ _) =>
    (∃ identifier, a = .call (.sendCode identifier) ∧ key = s.codeKey (normalize identifier)) ∨
      ∃ u, w.store.HasUser u ∧ key = s.accessKey u
  | .cache (.delete key) =>
    (∃ identifier code e, a = .call (.confirmCode identifier code) ∧
      key = s.codeKey (normalize identifier) ∧ w.cache.find? key = some e ∧
      e.value = normalize code) ∨ ∃ u, key = s.accessKey u
  | _ => True

variable {s : Settings} {a : Act} {mayFail : Prop} {w₀ w w' : World} {asks : World → Ask → Prop}

/-- Whoever has a refresh token stored is there, and it was issued to that user. -/
theorem Act.MayAsk.stores {q : Store.Request} {u : Int} {t : String} (h : a.MayAsk s w (.store q))
    (hq : q.stores = some (u, t)) : w.store.HasUser u ∧ IsRefreshOf s u t := by
  cases q with
  | createToken | rotateToken =>
    cases hq
    exact h
  | _ => cases hq

/-! ## Parts that change nothing -/

theorem ensures_lookup {onError : StoreError → AuthError} {q : Store.Request}
    {post : q.Answer → World → Prop} {fail : AuthError → World → Prop} (hl : q.IsLookup)
    (hq : asks w (.store q))
    (hp : ∀ x w', SameState w w' → (w.store.answer w.now q).1 = .ok x → post x w')
    (hf : ∀ e w', SameState w w' → fail (onError e) w') :
    Ensures (Turn mayFail) asks w (storeOr onError q) post fail := by
  have hidle : (Ask.store q).IsIdle := hl
  refine ensures_storeOr hq (fun x w' ht => ?_) fun e w' ht => hf e w' (ht.idle hidle)
  exact hp x w' (ht.idle hidle) (congrArg Prod.fst ht.store_ok.1)

theorem ensures_idle {q : Ask} {post : q.Answer → World → Prop}
    {fail : AuthError → World → Prop} (hi : q.IsIdle) (hq : asks w q)
    (hp : ∀ x w', SameState w w' → post x w') : Ensures (Turn mayFail) asks w (ask q) post fail :=
  ensures_ask hq fun x w' ht => hp x w' (ht.idle hi)

theorem along_sameState {kind : Ask → Prop} (hidle : ∀ q, kind q → q.IsIdle)
    (ha : ∀ w q, kind q → asks w q) (w : World) : Along (Turn mayFail) asks kind SameState w where
  refl := .refl
  trans := .trans
  asks _ hq := ha _ _ hq
  turns _ hq ht := ht.idle (hidle _ hq)

theorem isIdle_of_preliminary (q : Ask) (hq : q.IsPreliminary) : q.IsIdle :=
  Ask.preliminary_cases trivial trivial (fun _ => trivial) (fun _ => trivial) (fun _ => trivial)
    q hq

theorem Act.along_preliminary (a : Act) (w : World) :
    Along (Turn mayFail) (a.MayAsk s) Ask.IsPreliminary SameState w :=
  along_sameState isIdle_of_preliminary (fun _ => Ask.preliminary_cases trivial trivial
    (fun _ => trivial) (fun _ => trivial) fun _ => trivial) w

/-! ## Failures that are not of a challenge -/

section

variable {σ : Type} {turn : σ → (q : Ask) → q.Answer → σ → Prop} {R : σ → σ → Prop}
  {kind : TokenKind} {now : Time.Instant} {u : Int} {x y : σ} {e : AuthError}

theorem isOfChallenge_expiry (h : Token.expiry s kind now = .error e) :
    e.isOfChallenge = false := by
  unfold Token.expiry at h
  split at h
  · cases h
  · cases h
    rfl

theorem isOfChallenge_of_unissued (h : Unissued turn R s kind now x y e) :
    e.isOfChallenge = false := by
  cases h with
  | lookup => rfl
  | expiry he => exact isOfChallenge_expiry he

theorem isOfChallenge_of_unprepared (h : Unprepared turn R s u now x y e) :
    e.isOfChallenge = false := by
  cases h with
  | lookup | unknown => rfl
  | unissued h => exact isOfChallenge_of_unissued h

end

/-! ## Markers -/

/-- Every marker was there before, but for that of one user. -/
def OldMarkers (s : Settings) (w₀ w : World) (but : Option Int) : Prop :=
  ∀ u e, but ≠ some u → w.cache.find? (s.accessKey u) = some e →
    w₀.cache.find? (s.accessKey u) = some e

theorem OldMarkers.refl (s : Settings) (w : World) (but : Option Int) : OldMarkers s w w but :=
  fun _ _ _ h => h

theorem OldMarkers.but (h : OldMarkers s w₀ w none) (u : Int) : OldMarkers s w₀ w (some u) :=
  fun v e _ => h v e nofun

theorem OldMarkers.of_cache_eq {but : Option Int} (h : OldMarkers s w₀ w but)
    (hc : w'.cache = w.cache) : OldMarkers s w₀ w' but := by
  intro u e hu he
  rw [hc] at he
  exact h u e hu he

theorem OldMarkers.trans (h : OldMarkers s w₀ w none) (h' : OldMarkers s w w' none) :
    OldMarkers s w₀ w' none :=
  fun u e hu he => h u e hu (h' u e hu he)

/-- Only a marker that is written is new. -/
theorem OldMarkers.turn {but : Option Int} (h : OldMarkers s w₀ w but) {q : Ask} {x : q.Answer}
    (hq : ∀ u value lifetime, but ≠ some u → q ≠ .cache (.set (s.accessKey u) value lifetime))
    (ht : Turn mayFail w q x w') : OldMarkers s w₀ w' but := by
  intro u e hu he
  exact h u e hu (ht.find?_of_find? (fun value lifetime => hq u value lifetime hu) he)

/-! ## Minting -/

/-- However it ends, the operation has asked what the act may ask; if it fails, no marker is new,
and if it succeeds, it ends as `post` says. -/
abbrev UnmarkingOr {α : Type} (s : Settings) (a : Act) (mayFail : Prop) (w₀ w : World)
    (op : Operation α) (post : α → World → Prop) : Prop :=
  Ensures (Turn mayFail) (a.MayAsk s) w op post fun _ w' => OldMarkers s w₀ w' none

/-- A pair names a user who is there, and its refresh token is stored for the user. -/
structure Serves (s : Settings) (u : Int) (pair : TokenPair) (w : World) : Prop where
  account : w.store.HasUser u
  access : IsAccessOf s u pair.access
  refresh : IsRefreshOf s u pair.refresh
  record : w.store.HasRecord u pair.refresh

/-- However a part of minting ends, it has asked what the act may ask, and if it fails, then not for
a code that has not been taken, and no marker is new. -/
abbrev Minting {α : Type} (s : Settings) (a : Act) (mayFail : Prop) (w₀ w : World)
    (op : Operation α) (post : α → World → Prop) : Prop :=
  Ensures (Turn mayFail) (a.MayAsk s) w op post
    fun e w' => e.isOfChallenge = false ∧ OldMarkers s w₀ w' none

/-- A user stays there while no account is created or deleted. -/
theorem hasUser_turn {u : Int} (hu : w.store.HasUser u) {q : Store.Request} {x : q.Answer}
    (ht : Turn mayFail w (.store q) (.ok x) w') (hq : SparesAccounts q) : w'.store.HasUser u := by
  obtain ⟨r, hr, hid⟩ := hu
  have hsame := hq.same w.store w.now
  rw [ht.store_ok.1] at hsame
  refine ⟨r, ?_, hid⟩
  rw [hsame.liveRows_eq]
  exact hr

/-- The marker of the user is the only one that is written. -/
theorem conclude_serves (hk : s.HasDefaultKeys) {u : Int} (hu : w.store.HasUser u)
    (h₀ : OldMarkers s w₀ w none) {email : String} {permissions : List String}
    {now expiresAt : Time.Instant} {id : String} {refresh : Token.Issued}
    (he : Token.expiry s .access now = .ok expiresAt) (hr : IsRefreshOf s u refresh.token)
    (hrecord : w.store.HasRecord u refresh.token) :
    Minting s a mayFail w₀ w (conclude s u now
        (Token.issueUntil s .access u email permissions now expiresAt id) refresh)
      fun pair w' => Serves s u pair w' ∧ OldMarkers s w₀ w' (some u) := by
  refine ensures_conclude he (Or.inr ⟨u, hu, rfl⟩) (fun w₁ ht => ?_) fun c w₁ ht => ?_
  · rw [← ht.cache_ok.2.1] at hu hrecord
    refine ⟨⟨hu, ⟨_, _, _, _, _, rfl⟩, hr, hrecord⟩,
      (h₀.but u).turn (fun v value lifetime hv hq => ?_) ht⟩
    injection hq with hq
    injection hq with hkey
    exact hv (congrArg some (hk.accessKey_injective hkey))
  · exact ⟨by cases c <;> rfl, h₀.of_cache_eq ht.cache_error.1.cache⟩

theorem createPair_serves (hk : s.HasDefaultKeys) {u : Int} (email : String) (now : Time.Instant)
    (h₀ : OldMarkers s w₀ w none) : Minting s a mayFail w₀ w (createPair s u email now)
      fun pair w' => Serves s u pair w' ∧ OldMarkers s w₀ w' (some u) := by
  refine ensures_createPair (a.along_preliminary w) (fun e w₁ h₁ hu =>
    ⟨isOfChallenge_of_unprepared hu, h₀.of_cache_eq h₁.cache⟩) fun access refresh w₁ h₁ hp => ?_
  obtain ⟨user, permissions, hfound, _, ⟨accessEnd, accessId, he, _, rfl⟩,
    ⟨refreshEnd, refreshId, _, _, rfl⟩⟩ := hp
  have h₀ := h₀.of_cache_eq h₁.cache
  obtain ⟨hu, _⟩ : w₁.store.HasUser u ∧ user.id = u := by
    rw [h₁.store]
    exact Store.Memory.HasUser.of_findUser (findUser_of_told (fun _ h => .of_eq h.store) hfound)
  have hrefresh : IsRefreshOf s u (Token.issueUntil s .refresh u "" [] now refreshEnd
    refreshId).token := ⟨_, _, _, rfl⟩
  refine ensures_bind (ensures_storeOr ⟨hu, hrefresh⟩ (fun _ w₂ ht => ?_) fun e w₂ ht => ?_)
  · exact conclude_serves hk (hasUser_turn hu ht trivial) (h₀.of_cache_eq ht.store_ok.2.1) he
      hrefresh (Store.Memory.hasRecord_of_createToken ht.store_ok.1)
  · exact ⟨by cases e <;> rfl, h₀.of_cache_eq ht.store_error.1.cache⟩

/-! ## Operations that mint -/

/-- What has come of an operation that answers a pair: it names a user who is there, and no other
marker is new. -/
def Served (s : Settings) (w₀ : World) (pair : TokenPair) (w : World) : Prop :=
  ∃ u, Serves s u pair w ∧ OldMarkers s w₀ w (some u)

theorem login_serves (hk : s.HasDefaultKeys) (email password : String) :
    UnmarkingOr s a mayFail w w (login s email password) (Served s w) := by
  have h₀ := OldMarkers.refl s w none
  have halong : Along (Turn mayFail) (a.MayAsk s) (LoginAsks email) SameState w := by
    refine along_sameState ?_ (fun _ => ?_) w
    · rintro _ (rfl | rfl) <;> exact trivial
    · rintro _ (rfl | rfl) <;> exact trivial
  refine ensures_login halong (fun _ _ h => h₀.of_cache_eq h.cache)
    fun credentials now w₁ h₁ _ _ => ?_
  exact (createPair_serves hk _ now (h₀.of_cache_eq h₁.cache)).imp
    (fun _ _ hp => ⟨_, hp⟩) fun _ _ he => he.2

theorem register_serves (hk : s.HasDefaultKeys) (r : Registration) :
    UnmarkingOr s (.call (.register r)) mayFail w w (register s r) (Served s w) := by
  have h₀ := OldMarkers.refl s w none
  refine ensures_register (fun _ _ => h₀) trivial fun birthDate salt w₁ _ hsalt => ?_
  have h₁ := h₀.of_cache_eq (hsalt.idle (q := .freshSalt) trivial).cache
  refine ensures_bind (ensures_storeOr ⟨r, rfl, rfl, rfl⟩ (fun u w₂ ht => ?_) fun _ w₂ ht =>
    h₁.of_cache_eq ht.store_error.1.cache)
  have h₂ := h₁.of_cache_eq ht.store_ok.2.1
  refine ensures_bind (ensures_idle trivial trivial fun now w₃ hs₃ => ?_)
  exact (createPair_serves hk _ now (h₂.of_cache_eq hs₃.cache)).imp
    (fun _ _ hp => ⟨_, hp⟩) fun _ _ he => he.2

/-- What is left of a refresh once the new refresh token is issued. -/
theorem rotate_serves (hk : s.HasDefaultKeys) {user : User} {refreshEnd : Time.Instant}
    {refreshId : String} (t : String) (now : Time.Instant) (hu : w.store.HasUser user.id)
    (h₀ : OldMarkers s w₀ w none) :
    Minting s a mayFail w₀ w (rotate s t user.id user now
      (Token.issueUntil s .refresh user.id "" [] now refreshEnd refreshId)) (Served s w₀) := by
  have hrefresh : IsRefreshOf s user.id (Token.issueUntil s .refresh user.id "" [] now refreshEnd
    refreshId).token := ⟨_, _, _, rfl⟩
  refine ensures_rotate ⟨hu, hrefresh⟩
    (fun _ w₁ ht => ⟨rfl, h₀.of_cache_eq ht.store_error.1.cache⟩)
    (fun w₁ ht => ⟨rfl, h₀.of_cache_eq ht.store_ok.2.1⟩) fun w₁ ht => ?_
  have h₁ := h₀.of_cache_eq ht.store_ok.2.1
  have hu₁ := hasUser_turn hu ht trivial
  have hrecord := Store.Memory.hasRecord_of_rotateToken ht.store_ok.1
  refine ensures_remint (a.along_preliminary w₁) (fun _ => trivial) trivial
    (fun e w₂ h₂ he => ⟨isOfChallenge_of_unissued he, h₁.of_cache_eq h₂.cache⟩)
    fun permissions access w₂ h₂ _ ha => ?_
  obtain ⟨accessEnd, accessId, he, _, rfl⟩ := ha
  rw [← h₂.store] at hu₁ hrecord
  exact (conclude_serves hk hu₁ (h₁.of_cache_eq h₂.cache) he hrefresh hrecord).imp
    (fun _ _ hp => ⟨user.id, hp⟩) fun _ _ he => he

/-- Only a token that is held and not revoked is exchanged. -/
theorem refresh_serves (hk : s.HasDefaultKeys) (token : String) :
    UnmarkingOr s a mayFail w w (refresh s token)
      fun pair w' => Served s w pair w' ∧ w.store.holdsUnrevoked token = true := by
  have h₀ := OldMarkers.refl s w none
  refine ensures_refresh (a.along_preliminary w) (fun _ _ h => h₀.of_cache_eq h.cache)
    fun u user now next w₁ h₁ hx => ?_
  obtain ⟨record, hrecord, hunrevoked, _⟩ := hx.record
  have hheld : (token, record) ∈ w.store.tokens := by
    obtain ⟨w₂, h₂, ha⟩ := exists_answer_of_told hrecord
    rw [← h₂.store]
    exact Store.Memory.mem_of_findToken (Except.ok.inj ha)
  obtain ⟨hu, rfl⟩ : w₁.store.HasUser u ∧ user.id = u := by
    rw [h₁.store]
    exact Store.Memory.HasUser.of_findUser (findUser_of_told (fun _ h => .of_eq h.store) hx.account)
  obtain ⟨refreshEnd, refreshId, _, _, rfl⟩ := hx.issued
  exact (rotate_serves hk token now hu (h₀.of_cache_eq h₁.cache)).imp
    (fun _ _ hp => ⟨hp, Store.Memory.holdsUnrevoked_iff.2 ⟨record, hheld, hunrevoked⟩⟩)
    fun _ _ he => he.2

/-! ## One-time codes -/

/-- What has come of a right code: the owner of the phone is signed in, if there is one. -/
def SignedIn (s : Settings) (w₀ : World) (owner : Option User) (c : Confirmation) (w : World) :
    Prop :=
  match owner with
  | none => c = ⟨true, false, none⟩ ∧ OldMarkers s w₀ w none
  | some user => ∃ pair, c = ⟨true, true, some pair⟩ ∧ Serves s user.id pair w ∧
    OldMarkers s w₀ w (some user.id)

/-- What is left of a confirmation once the code is consumed. -/
def signInByPhone (s : Settings) (phone : String) : Operation Confirmation := do
  signInOwner s (← store (.findByPhone phone))

theorem signInByPhone_serves (hk : s.HasDefaultKeys) (phone : String)
    (h₀ : OldMarkers s w₀ w none) : Minting s a mayFail w₀ w (signInByPhone s phone)
      fun c w' => SignedIn s w₀ (w.store.findByPhone phone) c w' := by
  unfold signInByPhone
  refine ensures_bind (ensures_lookup trivial trivial (fun found w₁ hs₁ hx => ?_) fun _ _ hs =>
    ⟨rfl, h₀.of_cache_eq hs.cache⟩)
  have h₁ := h₀.of_cache_eq hs₁.cache
  obtain rfl : w.store.findByPhone phone = found := Except.ok.inj hx
  cases hf : w.store.findByPhone phone with
  | none => exact ensures_pure ⟨rfl, h₁⟩
  | some user =>
    refine ensures_bind (ensures_idle trivial trivial fun now w₂ hs₂ => ?_)
    refine ensures_bind ((createPair_serves hk user.email now (h₁.of_cache_eq hs₂.cache)).imp
      (fun pair w₃ hp => ?_) fun _ _ he => he)
    exact ensures_pure ⟨pair, rfl, hp.1, hp.2⟩

/-- The challenge is removed only when its code is the right one. -/
theorem confirmCode_serves (hk : s.HasDefaultKeys) (identifier code : String) :
    UnmarkingOr s (.call (.confirmCode identifier code)) mayFail w w
      (confirmCode s identifier code) fun c w' =>
        SignedIn s w (w.store.findByPhone (normalize identifier)) c w' := by
  have h₀ := OldMarkers.refl s w none
  unfold confirmCode
  refine ensures_bind (ensures_failIf (fun _ => h₀) fun _ => ?_)
  refine ensures_bind (ensures_cacheOr trivial (fun stored w₁ ht₁ => ?_) fun _ w₁ ht₁ =>
    h₀.of_cache_eq ht₁.cache_error.1.cache)
  have h₁ : OldMarkers s w w₁ none := h₀.turn (by rintro _ _ _ _ ⟨⟩) ht₁
  refine ensures_bind (ensures_orFail (fun code' hstored => ?_) fun _ => h₁)
  refine ensures_bind (ensures_failIf (fun _ => h₁) fun hsame => ?_)
  have hentry : ∃ e, w₁.cache.find? (s.codeKey (normalize identifier)) = some e ∧
      e.value = normalize code := by
    rw [hstored] at ht₁
    obtain ⟨e, he, hvalue⟩ := Cache.Memory.find?_of_get ht₁.cache_ok.1
    have hcode : (code' != normalize code) = false := hsame
    exact ⟨e, he, hvalue.trans (by simpa using hcode)⟩
  obtain ⟨e, he, hvalue⟩ := hentry
  refine ensures_bind (ensures_cacheOr (Or.inl ⟨identifier, code, e, rfl, rfl, he, hvalue⟩)
    (fun removed w₂ ht₂ => ?_) fun _ w₂ ht₂ => h₁.of_cache_eq ht₂.cache_error.1.cache)
  have h₂ : OldMarkers s w w₂ none := h₁.turn (by rintro _ _ _ _ ⟨⟩) ht₂
  refine ensures_bind (ensures_failIf (fun _ => h₂) fun _ => ?_)
  rw [← ht₁.cache_ok.2.1, ← ht₂.cache_ok.2.1]
  exact (signInByPhone_serves hk (normalize identifier) h₂).imp (fun _ _ hc => hc)
    fun _ _ he => he.2

/-! ## Every act -/

/-- What an act leaves: if it answers a pair, this serves a user, and otherwise no marker is new. -/
def Leaves (s : Settings) (w₀ : World) (minted : Option TokenPair) (w : World) : Prop :=
  match minted with
  | none => OldMarkers s w₀ w none
  | some pair => Served s w₀ pair w

theorem leaves_of_serves {op : Operation TokenPair}
    (h : UnmarkingOr s a mayFail w w op (Served s w)) :
    Ensures (Turn mayFail) (a.MayAsk s) w (do return some (← op)) (Leaves s w)
      fun _ w' => Leaves s w none w' :=
  ensures_bind (h.imp (fun _ _ hp => ensures_pure hp) fun _ _ h => h)

theorem Act.mayAsk_of_poses {c : Call} {q : Ask} (hq : c.Poses s q) :
    Act.MayAsk s (.call c) w q := by
  cases c with
  | register | login | refresh | confirmCode => exact hq.elim
  | logout u t =>
    rcases hq with rfl | rfl | rfl
    · exact trivial
    · exact trivial
    · exact Or.inr ⟨u, rfl⟩
  | sendCode identifier =>
    rcases hq with rfl | ⟨code, rfl⟩ | ⟨code, rfl⟩
    · exact trivial
    · exact Or.inl ⟨identifier, rfl, rfl⟩
    · exact trivial
  | revokeAll u =>
    rcases hq with rfl | rfl
    · exact trivial
    · exact Or.inr ⟨u, rfl⟩
  | deleteAccount u =>
    rcases hq with rfl | rfl | rfl
    · exact rfl
    · exact trivial
    · exact Or.inr ⟨u, rfl⟩
  | purge | profile | emailExists =>
    cases hq
    exact trivial
  | isAlive u id =>
    rcases hq with rfl | rfl <;> exact trivial

/-- A call that mints nothing writes no marker. -/
theorem Call.not_marks_of_poses (hk : s.HasDefaultKeys) {c : Call} {q : Ask} (hq : c.Poses s q)
    (u : Int) (value : String) (lifetime : Time.Duration) :
    q ≠ .cache (.set (s.accessKey u) value lifetime) := by
  rintro rfl
  cases c with
  | register | login | refresh | confirmCode => exact hq.elim
  | sendCode identifier =>
    rcases hq with hq | ⟨code, hq⟩ | ⟨code, hq⟩
    · cases hq
    · injection hq with hq
      injection hq with hkey
      exact hk.codeKey_ne_accessKey _ u hkey.symm
    · cases hq
  | logout | deleteAccount => rcases hq with hq | hq | hq <;> cases hq
  | revokeAll | isAlive => rcases hq with hq | hq <;> cases hq
  | purge | profile | emailExists => cases hq

theorem Call.leaves_of_poses (hk : s.HasDefaultKeys) {c : Call} (hc : c.mints = false) (w : World) :
    Ensures (Turn mayFail) (Act.MayAsk s (.call c)) w (c.operation s) (Leaves s w)
      fun _ w' => Leaves s w none w' := by
  have halong : Along (Turn mayFail) (Act.MayAsk s (.call c)) (c.Poses s)
      (fun w w' => OldMarkers s w w' none) w :=
    { refl := fun w => .refl s w none
      trans := .trans
      asks := fun _ hq => Act.mayAsk_of_poses hq
      turns := fun _ hq ht => (OldMarkers.refl s _ none).turn
        (fun u value lifetime _ => Call.not_marks_of_poses hk hq u value lifetime) ht }
  refine (Call.ensures_of_poses hc halong).imp (fun minted w' h => ?_) fun _ _ h => h
  obtain ⟨rfl, h⟩ := h
  exact h

theorem Act.operation_leaves (hk : s.HasDefaultKeys) (a : Act) (w : World) :
    Ensures (Turn mayFail) (a.MayAsk s) w (a.operation s) (Leaves s w)
      fun _ w' => Leaves s w none w' := by
  cases a with
  | mint u email now =>
    exact leaves_of_serves ((createPair_serves hk email now (.refl s w none)).imp
      (fun _ _ hp => ⟨u, hp⟩) fun _ _ he => he.2)
  | call c =>
    cases c with
    | register r => exact leaves_of_serves (register_serves hk r)
    | login email password => exact leaves_of_serves (login_serves hk email password)
    | refresh token =>
      exact leaves_of_serves ((refresh_serves hk token).imp (fun _ _ hp => hp.1) fun _ _ h => h)
    | confirmCode identifier code =>
      refine ensures_bind ((confirmCode_serves hk identifier code).imp (fun c w' hc => ?_)
        fun _ _ h => h)
      refine ensures_pure ?_
      unfold SignedIn at hc
      split at hc
      · obtain ⟨rfl, h⟩ := hc
        exact h
      · obtain ⟨pair, rfl, hp⟩ := hc
        exact ⟨_, hp⟩
    | logout | sendCode | revokeAll | deleteAccount | purge | profile | emailExists | isAlive =>
      exact Call.leaves_of_poses hk rfl w

variable {cancelled : Bool}

/-- An act asks only what it may, whether or not its caller has given up. -/
theorem Act.mayAsk_of_mem_asked (hk : s.HasDefaultKeys) (hf : w.faults = []) :
    ∀ x ∈ w.asked cancelled (a.program s), x.1.faults = [] ∧ a.MayAsk s x.1 x.2 :=
  (a.operation_leaves hk w).holds.of_mem_asked (World.turn_answer_kept cancelled) hf

/-- What an act leaves at its end. -/
theorem Act.leaves (cancelled : Bool) (hk : s.HasDefaultKeys) (hf : w.faults = []) :
    Leaves s w (mintedBy (w.run cancelled (a.program s)).1) (w.run cancelled (a.program s)).2 := by
  have h := (a.operation_leaves hk w).holds.of_leads
    (World.leads_run_of_nil cancelled hf (a.program s))
  generalize w.run cancelled (a.program s) = st at h ⊢
  obtain ⟨r, w'⟩ := st
  cases r <;> exact h

/-- What the questions of an act keep, the act keeps. -/
theorem Act.keeps (hk : s.HasDefaultKeys) (hf : w.faults = []) {I : World → Prop}
    (hI : ∀ w q x w', I w → a.MayAsk s w q → Turn True w q x w' → I w') (hw : I w) :
    I (w.run cancelled (a.program s)).2 := by
  refine Dialog.run_keeps (fun x hx hi => ?_) hw
  obtain ⟨hfaults, hask⟩ := a.mayAsk_of_mem_asked hk hf x hx
  exact hI _ _ _ _ hi hask (World.turn_answer cancelled hfaults x.2)

theorem Act.faults_eq_nil (hf : w.faults = []) :
    (w.run cancelled (a.program s)).2.faults = [] :=
  (World.leads_run_of_nil cancelled hf (a.program s)).keeps (I := fun w => w.faults = [])
    (fun _ _ _ _ hf ht => ht.faults hf) hf

end Session

end SignIn
