-- The parts that operations are made of: what each of them asks, and how it
-- ends, said once for whoever answers. What is known of somebody's answers is
-- carried through a part along a relation between the states before and after.
import SignIn.Session.Account
import SignIn.Session.Refresh
import SignIn.Session.OneTimeCode
import SignIn.Proofs.Dialog
import SignIn.Proofs.Token.Reading

namespace SignIn

open Dialog (Ensures Along Told ensures_pure ensures_bind ensures_failIf ensures_orFail
  ensures_ofExcept ok_of_mapError)
open Operation
open Text (normalize)

/-! ## What is asked at all -/

/-- However its questions are answered, an operation asks only what is allowed, and gives only what
is promised. -/
abbrev HoldsTo {ε α : Type} (allows : Ask → Prop) (op : ExceptT ε Program α)
    (promises : α → Prop) : Prop :=
  Ensures Dialog.Freely (fun _ => allows) () op (fun a _ => promises a) fun _ _ => True

section

variable {allows allows' : Ask → Prop}

theorem HoldsTo.weaken {ε α : Type} {op : ExceptT ε Program α} {promises promises' : α → Prop}
    (h : HoldsTo allows op promises) (ha : ∀ q, allows q → allows' q)
    (hp : ∀ a, promises a → promises' a) : HoldsTo allows' op promises' :=
  Ensures.imp ⟨h.holds.asks_imp fun _ => ha⟩ (fun a _ => hp a) fun _ _ _ => trivial

theorem holdsTo_bind {ε α β : Type} {op : ExceptT ε Program α} {f : α → ExceptT ε Program β}
    {promises : β → Prop} (h : HoldsTo allows op fun a => HoldsTo allows (f a) promises) :
    HoldsTo allows (op >>= f) promises :=
  ensures_bind h

theorem holdsTo_lift {ε : Type} {q : Ask} {promises : q.Answer → Prop} (hq : allows q)
    (hp : ∀ a, promises a) :
    HoldsTo allows (ExceptT.lift (Program.lift q) : ExceptT ε Program q.Answer) promises :=
  ⟨And.intro hq fun a _ _ => hp a⟩

theorem holdsTo_ask {q : Ask} {promises : q.Answer → Prop} (hq : allows q)
    (hp : ∀ a, promises a) : HoldsTo allows (ask q) promises :=
  holdsTo_lift hq hp

theorem holdsTo_storeOr {onError : StoreError → AuthError} {q : Store.Request}
    {promises : q.Answer → Prop} (hq : allows (.store q)) (hp : ∀ a, promises a) :
    HoldsTo allows (storeOr onError q) promises :=
  ensures_storeOr hq (fun a _ _ => hp a) fun _ _ _ => trivial

theorem holdsTo_cacheOr {onError : CacheError → AuthError} {q : Cache.Request}
    {promises : q.Answer → Prop} (hq : allows (.cache q)) (hp : ∀ a, promises a) :
    HoldsTo allows (cacheOr onError q) promises :=
  ensures_cacheOr hq (fun a _ _ => hp a) fun _ _ _ => trivial

/-- Where answers are free, it only matters what may be asked. -/
theorem along_freely {kind : Ask → Prop} (h : ∀ q, kind q → allows q) :
    @Along Ask Ask.Answer Unit Dialog.Freely (fun _ => allows) kind (fun _ _ => True) () :=
  Dialog.along_anyway fun _ => h

end

/-- The questions that come before tokens are stored: something is looked up or drawn. -/
def Ask.IsPreliminary : Ask → Prop
  | .clock | .freshId => True
  | .store (.findUser _) | .store (.findToken _) | .store (.permissionsOf _) => True
  | _ => False

theorem Ask.preliminary_cases {motive : Ask → Prop} (clock : motive .clock)
    (freshId : motive .freshId) (findUser : ∀ u, motive (.store (.findUser u)))
    (findToken : ∀ t, motive (.store (.findToken t)))
    (permissionsOf : ∀ role, motive (.store (.permissionsOf role))) (q : Ask)
    (hq : q.IsPreliminary) : motive q := by
  cases q with
  | clock => exact clock
  | freshId => exact freshId
  | store q =>
    cases q with
    | findUser u => exact findUser u
    | findToken t => exact findToken t
    | permissionsOf role => exact permissionsOf role
    | _ => exact hq.elim
  | _ => exact hq.elim

namespace Session

variable {σ α : Type} {turn : σ → (q : Ask) → q.Answer → σ → Prop} {asks : σ → Ask → Prop}
  {R : σ → σ → Prop} {asked : Ask → Prop} {x y z : σ} {fail : AuthError → σ → Prop}
  {s : Settings} {u : Int} {email t : String} {now : Time.Instant}

/-! ## Issuing -/

/-- What is issued ends a lifetime later. -/
theorem nanos_of_expiry {kind : TokenKind} {now expiresAt : Time.Instant}
    (h : Token.expiry s kind now = .ok expiresAt) :
    expiresAt.nanos = now.nanos + (Token.lifetimeOf s kind).nanos := by
  unfold Token.expiry at h
  split at h
  · rename_i t ht
    cases h
    exact Time.Instant.add?_eq_some.1 ht
  · cases h

theorem until?_of_expiry {kind : TokenKind} {now expiresAt : Time.Instant}
    (h : Token.expiry s kind now = .ok expiresAt) :
    now.until? expiresAt = some (Token.lifetimeOf s kind) := by
  have hn := nanos_of_expiry h
  unfold Time.Instant.until?
  rw [if_pos (by omega), hn, show now.nanos + (Token.lifetimeOf s kind).nanos - now.nanos =
    (Token.lifetimeOf s kind).nanos by omega, Int.toNat_natCast]

/-- A token has been issued, under an id that was drawn on the way. -/
def IssuedBy (turn : σ → (q : Ask) → q.Answer → σ → Prop) (R : σ → σ → Prop) (s : Settings)
    (kind : TokenKind) (u : Int) (email : String) (permissions : List String) (now : Time.Instant)
    (x : σ) (issued : Token.Issued) (y : σ) : Prop :=
  ∃ expiresAt id, Token.expiry s kind now = .ok expiresAt ∧ Told turn R x .freshId id y ∧
    issued = Token.issueUntil s kind u email permissions now expiresAt id

/-- These are the permissions of the role, as it was told on the way. -/
def Granted (turn : σ → (q : Ask) → q.Answer → σ → Prop) (R : σ → σ → Prop) (x : σ)
    (permissions : List String) (y : σ) : Option Int → Prop
  | some role => Told turn R x (.store (.permissionsOf role)) (.ok permissions) y
  | none => permissions = []

/-- How issuing can fail: with the call that looks the permissions up, or because the token would
end at no instant that can be held. -/
inductive Unissued (turn : σ → (q : Ask) → q.Answer → σ → Prop) (R : σ → σ → Prop) (s : Settings)
    (kind : TokenKind) (now : Time.Instant) (x y : σ) : AuthError → Prop
  | lookup {role : Int} {c : StoreError}
    (h : Told turn R x (.store (.permissionsOf role)) (.error c) y) :
    Unissued turn R s kind now x y (.repository c)
  | expiry {e : AuthError} (h : Token.expiry s kind now = .error e) :
    Unissued turn R s kind now x y e

theorem IssuedBy.widen {kind : TokenKind} {permissions : List String} {issued : Token.Issued}
    {x' : σ} {k : Ask → Prop} (h : Along turn asks k R x')
    (hi : IssuedBy turn R s kind u email permissions now x issued y) (hx : R x' x) (hy : R y z) :
    IssuedBy turn R s kind u email permissions now x' issued z := by
  obtain ⟨expiresAt, id, he, hid, rfl⟩ := hi
  exact ⟨expiresAt, id, he, h.widen hid hx hy, rfl⟩

theorem IssuedBy.expiry {kind : TokenKind} {permissions : List String} {issued : Token.Issued}
    (h : IssuedBy turn R s kind u email permissions now x issued y) :
    Token.expiry s kind now = .ok issued.expiresAt := by
  obtain ⟨expiresAt, id, he, _, rfl⟩ := h
  exact he

theorem Granted.widen {permissions : List String} {role : Option Int} {x' : σ}
    (h : Along turn asks asked R x') (hg : Granted turn R x permissions y role) (hx : R x' x)
    (hy : R y z) : Granted turn R x' permissions z role := by
  cases role with
  | some role => exact h.widen hg hx hy
  | none => exact hg

theorem Unissued.widen {kind : TokenKind} {e : AuthError} {x' : σ}
    (h : Along turn asks asked R x') (hu : Unissued turn R s kind now x y e) (hx : R x' x)
    (hy : R y z) : Unissued turn R s kind now x' z e := by
  cases hu with
  | lookup hu => exact .lookup (h.widen hu hx hy)
  | expiry he => exact .expiry he

theorem permissionsFor_along (h : Along turn asks asked R x) (role : Option Int)
    (hq : ∀ role, asked (.store (.permissionsOf role))) (kind : TokenKind) (now : Time.Instant) :
    Ensures turn asks x (permissionsFor role)
      (fun permissions y => R x y ∧ Granted turn R x permissions y role)
      fun e y => R x y ∧ Unissued turn R s kind now x y e := by
  cases role with
  | none => exact ensures_pure ⟨h.refl x, rfl⟩
  | some role =>
    exact ensures_storeOr (h.asks (h.refl x) (hq role))
      (fun _ _ ht => ⟨h.turns (h.refl x) (hq role) ht, h.told ht⟩)
      fun _ _ ht => ⟨h.turns (h.refl x) (hq role) ht, .lookup (h.told ht)⟩

theorem issue_along (h : Along turn asks asked R x) (hq : asked .freshId) (kind : TokenKind)
    (u : Int) (email : String) (permissions : List String) (now : Time.Instant) :
    Ensures turn asks x (issue s kind u email permissions now)
      (fun issued y => R x y ∧ IssuedBy turn R s kind u email permissions now x issued y)
      fun e y => R x y ∧ Unissued turn R s kind now x y e := by
  unfold issue
  refine ensures_bind (ensures_ofExcept (fun expiresAt he => ?_) fun e he =>
    ⟨h.refl x, .expiry he⟩)
  refine ensures_bind (ensures_ask (h.asks (h.refl x) hq) fun id y ht => ?_)
  exact ensures_pure ⟨h.turns (h.refl x) hq ht, expiresAt, id, he, h.told ht, rfl⟩

/-! ## Minting a pair -/

/-- What is left of minting once the refresh token is stored. -/
def conclude (s : Settings) (u : Int) (now : Time.Instant) (access refresh : Token.Issued) :
    Operation TokenPair := do
  markLive s u access now
  return ⟨access.token, refresh.token⟩

/-- What is left of minting once both tokens are issued. -/
def deposit (s : Settings) (u : Int) (now : Time.Instant) (access refresh : Token.Issued) :
    Operation TokenPair := do
  storeOr storeFailed (.createToken u refresh.token refresh.expiresAt)
  conclude s u now access refresh

/-- Both tokens of a pair have been issued, for a user that was found on the way. -/
def Prepared (turn : σ → (q : Ask) → q.Answer → σ → Prop) (R : σ → σ → Prop) (s : Settings)
    (u : Int) (email : String) (now : Time.Instant) (x : σ) (access refresh : Token.Issued)
    (y : σ) : Prop :=
  ∃ user permissions, Told turn R x (.store (.findUser u)) (.ok (some user)) y ∧
    Granted turn R x permissions y user.role ∧
    IssuedBy turn R s .access u email permissions now x access y ∧
    IssuedBy turn R s .refresh u "" [] now x refresh y

/-- How minting can fail before anything is stored. -/
inductive Unprepared (turn : σ → (q : Ask) → q.Answer → σ → Prop) (R : σ → σ → Prop)
    (s : Settings) (u : Int) (now : Time.Instant) (x y : σ) : AuthError → Prop
  | lookup {c : StoreError} (h : Told turn R x (.store (.findUser u)) (.error c) y) :
    Unprepared turn R s u now x y (.repository c)
  | unknown (h : Told turn R x (.store (.findUser u)) (.ok none) y) :
    Unprepared turn R s u now x y .userNotFound
  | unissued {kind : TokenKind} {e : AuthError} (h : Unissued turn R s kind now x y e) :
    Unprepared turn R s u now x y e

theorem ensures_createPair {post : TokenPair → σ → Prop}
    (h : Along turn asks Ask.IsPreliminary R x)
    (hfail : ∀ e y, R x y → Unprepared turn R s u now x y e → fail e y)
    (hrest : ∀ access refresh y, R x y → Prepared turn R s u email now x access refresh y →
      Ensures turn asks y (deposit s u now access refresh) post fail) :
    Ensures turn asks x (createPair s u email now) post fail := by
  have hq : (Ask.store (.findUser u)).IsPreliminary := trivial
  have hx := h.refl x
  unfold createPair
  refine ensures_bind (ensures_storeOr (h.asks hx hq) (fun found y ht => ?_) fun c y ht =>
    hfail _ _ (h.turns hx hq ht) (.lookup (h.told ht)))
  have hy := h.turns hx hq ht
  have hpermissions : ∀ role, (Ask.store (.permissionsOf role)).IsPreliminary := fun _ => trivial
  have hid : Ask.freshId.IsPreliminary := trivial
  refine ensures_bind (ensures_orFail (fun user hu => ?_) fun hnone => hfail _ _ hy (.unknown ?_))
  · refine ensures_bind ((permissionsFor_along (h.later hy) user.role hpermissions .access now).imp
      (fun permissions y₁ hp => ?_) fun e y₁ he => hfail _ _ (h.trans hy he.1)
        (.unissued (he.2.widen h hy (h.refl y₁))))
    have hy₁ := h.trans hy hp.1
    refine ensures_bind ((issue_along (h.later hy₁) hid .access u email permissions now).imp
      (fun access y₂ ha => ?_) fun e y₂ he => hfail _ _ (h.trans hy₁ he.1)
        (.unissued (he.2.widen h hy₁ (h.refl y₂))))
    have hy₂ := h.trans hy₁ ha.1
    refine ensures_bind ((issue_along (h.later hy₂) hid .refresh u "" [] now).imp
      (fun refresh y₃ hr => ?_) fun e y₃ he => hfail _ _ (h.trans hy₂ he.1)
        (.unissued (he.2.widen h hy₂ (h.refl y₃))))
    refine hrest access refresh y₃ (h.trans hy₂ hr.1) ⟨user, permissions, ?_, ?_, ?_, ?_⟩
    · rw [← hu]
      exact h.widen (h.told ht) hx (h.trans hp.1 (h.trans ha.1 hr.1))
    · exact hp.2.widen h hy (h.trans ha.1 hr.1)
    · exact ha.2.widen h hy₁ hr.1
    · exact hr.2.widen h hy₂ (h.refl y₃)
  · rw [← hnone]
    exact h.told ht

/-- A token that has just been issued has its whole lifetime left, for which its marker is
written. -/
theorem ensures_markLive {issued : Token.Issued} {post : Unit → σ → Prop}
    (he : Token.expiry s .access now = .ok issued.expiresAt)
    (hq : asks x (.cache (.set (s.accessKey u) issued.id s.accessLifetime)))
    (hp : ∀ y, turn x (.cache (.set (s.accessKey u) issued.id s.accessLifetime)) (.ok ()) y →
      post () y)
    (hf : ∀ c y, turn x (.cache (.set (s.accessKey u) issued.id s.accessLifetime)) (.error c) y →
      fail (markFailed c) y) : Ensures turn asks x (markLive s u issued now) post fail := by
  have hleft : now.until? issued.expiresAt = some s.accessLifetime := until?_of_expiry he
  unfold markLive
  rw [hleft]
  exact ensures_bind (ensures_pure (ensures_cacheOr hq (fun _ y ht => hp y ht) hf))

theorem ensures_conclude {access refresh : Token.Issued} {post : TokenPair → σ → Prop}
    (he : Token.expiry s .access now = .ok access.expiresAt)
    (hq : asks x (.cache (.set (s.accessKey u) access.id s.accessLifetime)))
    (hp : ∀ y, turn x (.cache (.set (s.accessKey u) access.id s.accessLifetime)) (.ok ()) y →
      post ⟨access.token, refresh.token⟩ y)
    (hf : ∀ c y, turn x (.cache (.set (s.accessKey u) access.id s.accessLifetime)) (.error c) y →
      fail (markFailed c) y) :
    Ensures turn asks x (conclude s u now access refresh) post fail :=
  ensures_bind (ensures_markLive he hq (fun y ht => ensures_pure (hp y ht)) hf)

/-! ## Exchanging a token -/

/-- What is left of a refresh once the token is rotated. -/
def remint (s : Settings) (user : User) (now : Time.Instant) (next : Token.Issued) :
    Operation TokenPair := do
  let permissions ← permissionsFor user.role
  let access ← issueAccess s user.id user.email permissions now
  markLive s user.id access now
  return ⟨access.token, next.token⟩

/-- What is left of it once the new refresh token is issued. -/
def rotate (s : Settings) (t : String) (u : Int) (user : User) (now : Time.Instant)
    (next : Token.Issued) : Operation TokenPair := do
  let rotated ← store (.rotateToken u t next.token next.expiresAt)
  failIf (!rotated) .refreshTokenInvalid
  remint s user now next

/-- What is left of it once the user is found. -/
def exchange (s : Settings) (t : String) (u : Int) (user : User) (now : Time.Instant) :
    Operation TokenPair := do
  let next ← issueRefresh s user.id now
  rotate s t u user now next

/-- A refresh looks the token and the user up, then exchanges the token. -/
theorem refresh_eq (s : Settings) (t : String) : refresh s t = (do
    let claims ← verify s .refresh t
    let now ← clock
    let record ← orFail .refreshTokenNotFound (← store (.findToken t))
    failIf record.isRevoked .refreshTokenRevoked
    failIf (record.isExpired now) .refreshTokenExpired
    let user ← orFail .userNotFound (← store (.findUser claims.userId))
    exchange s t claims.userId user now) := rfl

/-- A refresh token names a user in its claims. -/
def Names (s : Settings) (t : String) (u : Int) : Prop :=
  ∃ signed, Token.Signed.ofToken t (Token.secretOf s .refresh) = .ok signed ∧
    signed.claims.userId = u

/-- The claims that are verified are those of a token signed with the secret; all that is asked is
what time it is. -/
theorem verify_freely (s : Settings) (kind : TokenKind) (t : String) :
    Ensures Dialog.Freely (fun _ q => q = .clock) () (verify s kind t)
      (fun claims _ => ∃ signed, Token.Signed.ofToken t (Token.secretOf s kind) = .ok signed ∧
        signed.claims = claims)
      fun e _ => ∃ r, e = refused r := by
  have hrefused : ∀ {α : Type} {x : Except Token.Refusal α} {e : AuthError},
      x.mapError refused = .error e → ∃ r, e = refused r := by
    rintro α (r | a) e he
    · cases he
      exact ⟨r, rfl⟩
    · cases he
  unfold verify
  refine ensures_bind (ensures_ofExcept (fun signed hs => ?_) fun e he => hrefused he)
  refine ensures_bind (ensures_ask rfl fun now _ _ => ?_)
  exact ensures_ofExcept (fun claims hc => ⟨signed, ok_of_mapError hs,
    (Token.claims_of_accept (ok_of_mapError hc)).1⟩) fun e he => hrefused he

/-- A token can be exchanged, by what was told on the way, and the new one has been issued. -/
structure Examined (turn : σ → (q : Ask) → q.Answer → σ → Prop) (R : σ → σ → Prop) (s : Settings)
    (t : String) (x : σ) (u : Int) (user : User) (now : Time.Instant) (next : Token.Issued)
    (y : σ) : Prop where
  names : Names s t u
  clock : Told turn R x .clock now y
  record : ∃ record, Told turn R x (.store (.findToken t)) (.ok (some record)) y ∧
    record.isRevoked = false ∧ record.isExpired now = false
  account : Told turn R x (.store (.findUser u)) (.ok (some user)) y
  issued : IssuedBy turn R s .refresh user.id "" [] now x next y

theorem ensures_refresh {post : TokenPair → σ → Prop} (h : Along turn asks Ask.IsPreliminary R x)
    (hfail : ∀ e y, R x y → fail e y)
    (hrest : ∀ u user now next y, R x y → Examined turn R s t x u user now next y →
      Ensures turn asks y (rotate s t u user now next) post fail) :
    Ensures turn asks x (refresh s t) post fail := by
  have hclock : Ask.clock.IsPreliminary := trivial
  have htoken : (Ask.store (.findToken t)).IsPreliminary := trivial
  have hid : Ask.freshId.IsPreliminary := trivial
  rw [refresh_eq]
  have htime : Along turn asks (fun q => q = .clock) R x := h.mono fun q hq => hq ▸ hclock
  refine ensures_bind ((htime.ensures (verify_freely s .refresh t)).imp (fun claims x₁ hv => ?_)
    fun e x₁ he => hfail e x₁ he.2)
  obtain ⟨⟨signed, hsigned, hclaims⟩, h₁⟩ := hv
  refine ensures_bind (ensures_ask (h.asks h₁ hclock) fun now x₂ ht₂ => ?_)
  have h₂ := h.trans h₁ (h.turns h₁ hclock ht₂)
  refine ensures_bind (ensures_storeOr (h.asks h₂ htoken) (fun found x₃ ht₃ => ?_)
    fun _ x₃ ht₃ => hfail _ _ (h.trans h₂ (h.turns h₂ htoken ht₃)))
  have h₂₃ := h.turns h₂ htoken ht₃
  have h₃ := h.trans h₂ h₂₃
  refine ensures_bind (ensures_orFail (fun record hr => ?_) fun _ => hfail _ _ h₃)
  refine ensures_bind (ensures_failIf (fun _ => hfail _ _ h₃) fun hunrevoked => ?_)
  refine ensures_bind (ensures_failIf (fun _ => hfail _ _ h₃) fun hin => ?_)
  have huser : (Ask.store (.findUser claims.userId)).IsPreliminary := trivial
  refine ensures_bind (ensures_storeOr (h.asks h₃ huser) (fun found' x₄ ht₄ => ?_)
    fun _ x₄ ht₄ => hfail _ _ (h.trans h₃ (h.turns h₃ huser ht₄)))
  have h₃₄ := h.turns h₃ huser ht₄
  have h₄ := h.trans h₃ h₃₄
  refine ensures_bind (ensures_orFail (fun user hu => ?_) fun _ => hfail _ _ h₄)
  unfold exchange
  refine ensures_bind ((issue_along (h.later h₄) hid .refresh user.id "" [] now).imp
    (fun next x₅ hi => ?_) fun e x₅ he => hfail _ _ (h.trans h₄ he.1))
  have h₅ := h.trans h₄ hi.1
  rw [hr] at ht₃
  rw [hu] at ht₄
  refine hrest _ _ _ _ _ h₅ ⟨⟨signed, hsigned, by rw [hclaims]⟩, ?_, ⟨record, ?_, hunrevoked, hin⟩,
    ?_, hi.2.widen h h₄ (h.refl x₅)⟩
  · exact ⟨x₁, x₂, h₁, ht₂, h.trans h₂₃ (h.trans h₃₄ hi.1)⟩
  · exact ⟨x₂, x₃, h₂, ht₃, h.trans h₃₄ hi.1⟩
  · exact ⟨x₃, x₄, h₃, ht₄, hi.1⟩

/-- A rotation is lost, refused or done; only then is anything minted. -/
theorem ensures_rotate {user : User} {next : Token.Issued} {post : TokenPair → σ → Prop}
    (hq : asks x (.store (.rotateToken u t next.token next.expiresAt)))
    (hlost : ∀ c y, turn x (.store (.rotateToken u t next.token next.expiresAt)) (.error c) y →
      fail (.repository c) y)
    (hrefused : ∀ y, turn x (.store (.rotateToken u t next.token next.expiresAt)) (.ok false) y →
      fail .refreshTokenInvalid y)
    (hdone : ∀ y, turn x (.store (.rotateToken u t next.token next.expiresAt)) (.ok true) y →
      Ensures turn asks y (remint s user now next) post fail) :
    Ensures turn asks x (rotate s t u user now next) post fail := by
  unfold rotate
  refine ensures_bind (ensures_storeOr hq (fun rotated y ht => ?_) hlost)
  refine ensures_bind (ensures_failIf (fun hnot => hrefused y ?_) fun hnot => hdone y ?_)
  · rw [← (Bool.not_eq_true' rotated).mp hnot]
    exact ht
  · rw [← (Bool.not_eq_false' rotated).mp hnot]
    exact ht

theorem ensures_remint {user : User} {next : Token.Issued} {post : TokenPair → σ → Prop}
    (h : Along turn asks asked R x) (hpermissions : ∀ role, asked (.store (.permissionsOf role)))
    (hid : asked .freshId)
    (hfail : ∀ e y, R x y → Unissued turn R s .access now x y e → fail e y)
    (hrest : ∀ permissions access y, R x y → Granted turn R x permissions y user.role →
      IssuedBy turn R s .access user.id user.email permissions now x access y →
      Ensures turn asks y (conclude s user.id now access next) post fail) :
    Ensures turn asks x (remint s user now next) post fail := by
  unfold remint
  refine ensures_bind ((permissionsFor_along h user.role hpermissions .access now).imp
    (fun permissions y hp => ?_) fun e y he => hfail e y he.1 he.2)
  refine ensures_bind ((issue_along (h.later hp.1) hid .access user.id user.email permissions
    now).imp (fun access z ha => ?_) fun e z he => hfail e z (h.trans hp.1 he.1)
      (he.2.widen h hp.1 (h.refl z)))
  exact hrest permissions access z (h.trans hp.1 ha.1) (hp.2.widen h (h.refl x) ha.1)
    (ha.2.widen h hp.1 (h.refl z))

/-! ## Signing in -/

/-- What a login asks before it mints. -/
def LoginAsks (email : String) (q : Ask) : Prop :=
  q = .store (.findCredentials (normalize email)) ∨ q = .clock

theorem ensures_login {password : String} {post : TokenPair → σ → Prop}
    (h : Along turn asks (LoginAsks email) R x) (hfail : ∀ e y, R x y → fail e y)
    (hrest : ∀ credentials now y, R x y →
      Told turn R x (.store (.findCredentials (normalize email))) (.ok (some credentials)) y →
      Told turn R x .clock now y →
      Ensures turn asks y (createPair s credentials.id credentials.email now) post fail) :
    Ensures turn asks x (login s email password) post fail := by
  have hx := h.refl x
  have hq : LoginAsks email (.store (.findCredentials (normalize email))) := Or.inl rfl
  have hclock : LoginAsks email .clock := Or.inr rfl
  unfold login
  refine ensures_bind (ensures_storeOr (h.asks hx hq) (fun found y ht => ?_) fun _ y ht =>
    hfail _ _ (h.turns hx hq ht))
  have hy := h.turns hx hq ht
  refine ensures_bind (ensures_orFail (fun credentials hc => ?_) fun _ => hfail _ _ hy)
  refine ensures_bind (ensures_ofExcept (fun isRight _ => ?_) fun e _ => hfail e _ hy)
  refine ensures_bind (ensures_failIf (fun _ => hfail _ _ hy) fun _ => ?_)
  refine ensures_bind (ensures_ask (h.asks hy hclock) fun now z hz => ?_)
  have hyz := h.turns hy hclock hz
  rw [hc] at ht
  exact hrest credentials now z (h.trans hy hyz) ⟨x, y, hx, ht, hyz⟩ ⟨y, z, hy, hz, h.refl z⟩

/-- A registration has all that is asked for: an email, a password and a birth date. -/
structure IsComplete (s : Settings) (r : Registration) (birthDate : Time.Date) : Prop where
  email : (normalize r.email).isEmpty = false
  password : r.password.isEmpty = false
  birthDate : parseBirthDate r.birthDate s.birthDatePattern = .ok birthDate

theorem ensures_register {r : Registration} {post : TokenPair → σ → Prop}
    (hfail : ∀ e, (∀ birthDate, ¬ IsComplete s r birthDate) → fail e x) (hsalt : asks x .freshSalt)
    (hrest : ∀ birthDate salt y, IsComplete s r birthDate → turn x .freshSalt salt y →
      Ensures turn asks y (do
        let userId ← store (.createUser (newUser r (normalize r.email) birthDate
          (Password.hash salt r.password)))
        createPair s userId (normalize r.email) (← clock)) post fail) :
    Ensures turn asks x (register s r) post fail := by
  unfold register
  refine ensures_bind (ensures_failIf (fun hblank => hfail _ fun _ ho => ?_) fun hemail => ?_)
  · exact Bool.false_ne_true (ho.email.symm.trans hblank)
  refine ensures_bind (ensures_failIf (fun hblank => hfail _ fun _ ho => ?_) fun hpassword => ?_)
  · exact Bool.false_ne_true (ho.password.symm.trans hblank)
  refine ensures_bind (ensures_ofExcept (fun birthDate hbirth => ?_) fun e he =>
    hfail e fun _ ho => ?_)
  · exact ensures_bind (ensures_ask hsalt fun salt y ht =>
      hrest birthDate salt y ⟨hemail, hpassword, hbirth⟩ ht)
  · cases he.symm.trans ho.birthDate

/-- What the confirmation of a code asks before it mints. -/
def ConfirmationAsks (s : Settings) (identifier : String) (q : Ask) : Prop :=
  q = .cache (.get (s.codeKey (normalize identifier))) ∨
    q = .cache (.delete (s.codeKey (normalize identifier))) ∨
    q = .store (.findByPhone (normalize identifier)) ∨ q = .clock

theorem ensures_confirmCode {identifier code : String} {post : Confirmation → σ → Prop}
    (h : Along turn asks (ConfirmationAsks s identifier) R x) (hfail : ∀ e y, R x y → fail e y)
    (hnobody : ∀ y, R x y →
      Told turn R x (.store (.findByPhone (normalize identifier))) (.ok none) y →
      post ⟨true, false, none⟩ y)
    (hrest : ∀ user now y, R x y →
      Told turn R x (.store (.findByPhone (normalize identifier))) (.ok (some user)) y →
      Told turn R x .clock now y → Ensures turn asks y (createPair s user.id user.email now)
        (fun pair => post ⟨true, true, some pair⟩) fail) :
    Ensures turn asks x (confirmCode s identifier code) post fail := by
  have hx := h.refl x
  have hget : ConfirmationAsks s identifier (.cache (.get (s.codeKey (normalize identifier)))) :=
    Or.inl rfl
  have hdelete : ConfirmationAsks s identifier
      (.cache (.delete (s.codeKey (normalize identifier)))) := Or.inr (Or.inl rfl)
  have hphone : ConfirmationAsks s identifier (.store (.findByPhone (normalize identifier))) :=
    Or.inr (Or.inr (Or.inl rfl))
  have hclock : ConfirmationAsks s identifier .clock := Or.inr (Or.inr (Or.inr rfl))
  unfold confirmCode
  refine ensures_bind (ensures_failIf (fun _ => hfail _ _ hx) fun _ => ?_)
  refine ensures_bind (ensures_cacheOr (h.asks hx hget) (fun stored y ht => ?_) fun _ y ht =>
    hfail _ _ (h.turns hx hget ht))
  have hy := h.turns hx hget ht
  refine ensures_bind (ensures_orFail (fun code' _ => ?_) fun _ => hfail _ _ hy)
  refine ensures_bind (ensures_failIf (fun _ => hfail _ _ hy) fun _ => ?_)
  refine ensures_bind (ensures_cacheOr (h.asks hy hdelete) (fun removed y₁ ht₁ => ?_)
    fun _ y₁ ht₁ => hfail _ _ (h.trans hy (h.turns hy hdelete ht₁)))
  have hy₁ := h.trans hy (h.turns hy hdelete ht₁)
  refine ensures_bind (ensures_failIf (fun _ => hfail _ _ hy₁) fun _ => ?_)
  refine ensures_bind (ensures_storeOr (h.asks hy₁ hphone) (fun found y₂ ht₂ => ?_)
    fun _ y₂ ht₂ => hfail _ _ (h.trans hy₁ (h.turns hy₁ hphone ht₂)))
  have hlast := h.turns hy₁ hphone ht₂
  have hy₂ := h.trans hy₁ hlast
  cases found with
  | none => exact ensures_pure (hnobody y₂ hy₂ ⟨y₁, y₂, hy₁, ht₂, h.refl y₂⟩)
  | some user =>
    unfold signInOwner
    refine ensures_bind (ensures_ask (h.asks hy₂ hclock) fun now y₃ ht₃ => ?_)
    have hlast₃ := h.turns hy₂ hclock ht₃
    exact ensures_bind ((hrest user now y₃ (h.trans hy₂ hlast₃) ⟨y₁, y₂, hy₁, ht₂, hlast₃⟩
      ⟨y₂, y₃, hy₂, ht₃, h.refl y₃⟩).imp (fun _ _ hp => ensures_pure hp) fun _ _ he => he)

/-! ## Signing out -/

/-- A token is revoked by the user that it names. -/
theorem ensures_logout {post : Unit → σ → Prop} (h : Along turn asks (fun q => q = .clock) R x)
    (hfail : ∀ e y, R x y → fail e y)
    (hrest : ∀ y, R x y → Names s (Text.trim t) u → Ensures turn asks y (do
      let _ ← store (.revokeToken (Text.trim t))
      let _ ← cache (.delete (s.accessKey u))) post fail) :
    Ensures turn asks x (logout s u t) post fail := by
  unfold logout
  refine ensures_bind (ensures_failIf (fun _ => hfail _ _ (h.refl x)) fun _ => ?_)
  refine ensures_bind ((h.ensures (verify_freely s .refresh (Text.trim t))).imp
    (fun claims y hv => ?_) fun e y he => hfail e y he.2)
  obtain ⟨⟨signed, hsigned, hclaims⟩, hy⟩ := hv
  refine ensures_bind (ensures_failIf (fun _ => hfail _ _ hy) fun hown => hrest y hy ?_)
  have hown : claims.userId = u := by simpa using hown
  exact ⟨signed, hsigned, by rw [hclaims, hown]⟩

end Session

end SignIn
