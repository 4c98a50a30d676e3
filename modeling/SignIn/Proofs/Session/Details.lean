-- What a failure says is kept out of the way of operations. In two runs of one
-- operation store, cache and delivery may say different things of what went
-- wrong: the same questions are asked, and the same comes of them but for what
-- a failure says.
import SignIn.Session.Account
import SignIn.Session.Refresh
import SignIn.Session.OneTimeCode

namespace SignIn

/-! ## Failures without what they say -/

def StoreError.bare : StoreError → StoreError
  | .cancelled => .cancelled
  | .conflict _ => .conflict ""
  | .database _ => .database ""

def CacheError.bare : CacheError → CacheError
  | .cancelled => .cancelled
  | .client _ => .client ""

namespace AuthError

/-- The failure without what it says of the inside. What it says of the caller's own texts stays. -/
def bare : AuthError → AuthError
  | .invalidToken _ => .invalidToken ""
  | .tokenCreation _ => .tokenCreation ""
  | .repository e => .repository e.bare
  | .cache e => .cache e.bare
  | .delivery _ => .delivery ""
  | .internal _ => .internal ""
  | e => e

/-- Whether the store has refused a row that is there already. -/
def isConflict : AuthError → Bool
  | .repository (.conflict _) => true
  | _ => false

/-- The failures that say nothing, but for those that are about the caller's own texts. -/
def bares : List AuthError :=
  [.invalidToken "", .tokenOwnership, .refreshTokenNotFound, .refreshTokenRevoked,
    .refreshTokenExpired, .refreshTokenInvalid, .userNotFound, .invalidCredentials,
    .codeInvalidOrExpired, .codeMismatch, .tokenCreation "", .repository .cancelled,
    .repository (.conflict ""), .repository (.database ""), .cache .cancelled,
    .cache (.client ""), .delivery "", .internal ""]

theorem bare_mem_bares {e : AuthError} (hv : ∀ text, e ≠ .validation text)
    (hp : ∀ text, e ≠ .parse text) : e.bare ∈ bares := by
  cases e with
  | validation text => exact absurd rfl (hv text)
  | parse text => exact absurd rfl (hp text)
  | repository e => cases e <;> simp [bare, StoreError.bare, bares]
  | cache e => cases e <;> simp [bare, CacheError.bare, bares]
  | _ => simp [bare, bares]

theorem kind_bare (e : AuthError) : e.bare.kind = e.kind := by cases e <;> rfl

theorem isCancelled_bare (e : AuthError) : e.bare.isCancelled = e.isCancelled := by
  cases e with
  | repository e => cases e <;> rfl
  | cache e => cases e <;> rfl
  | _ => rfl

theorem isConflict_bare (e : AuthError) : e.bare.isConflict = e.isConflict := by
  cases e with
  | repository e => cases e <;> rfl
  | _ => rfl

/-- But for what it says, a failure is known by its kind, and by whether the caller has given up or
a row was there already. -/
theorem bare_eq_of_kind_eq {e e' : AuthError} (hkind : e.kind = e'.kind)
    (hcancelled : e.isCancelled = e'.isCancelled) (hconflict : e.isConflict = e'.isConflict)
    (he : e.bare ∈ bares) (he' : e'.bare ∈ bares) : e.bare = e'.bare := by
  have hall : bares.all (fun a => bares.all fun b => decide (a.kind = b.kind →
      a.isCancelled = b.isCancelled → a.isConflict = b.isConflict → a = b)) = true := by
    decide +kernel
  have hpair := of_decide_eq_true (List.all_eq_true.1 (List.all_eq_true.1 hall _ he) _ he')
  rw [kind_bare, kind_bare, isCancelled_bare, isCancelled_bare, isConflict_bare,
    isConflict_bare] at hpair
  exact hpair hkind hcancelled hconflict

end AuthError

/-! ## Dialogs that are alike -/

namespace Dialog

variable {Question : Type} {Answer : Question → Type} {α β σ τ : Type}

/-- Two dialogs ask the same questions as long as they are answered as `same` says, and end as
`ends` says. -/
inductive Alike (same : (q : Question) → Answer q → Answer q → Prop) (ends : α → α → Prop) :
    Dialog Question Answer α → Dialog Question Answer α → Prop
  | done {a b : α} (h : ends a b) : Alike same ends (.done a) (.done b)
  | ask {q : Question} {next next' : Answer q → Dialog Question Answer α}
      (h : ∀ a b, same q a b → Alike same ends (next a) (next' b)) :
      Alike same ends (.ask q next) (.ask q next')

variable {same : (q : Question) → Answer q → Answer q → Prop} {ends : α → α → Prop}
  {d d' : Dialog Question Answer α}

theorem Alike.bind {ends' : β → β → Prop} {f f' : α → Dialog Question Answer β}
    (h : Alike same ends d d') (hf : ∀ a b, ends a b → Alike same ends' (f a) (f' b)) :
    Alike same ends' (d >>= f) (d' >>= f') := by
  induction h with
  | done h => exact hf _ _ h
  | ask _ ih => exact .ask ih

/-- Two partners who always answer as `same` says lead such dialogs to such ends. -/
theorem Alike.run {answer : σ → (q : Question) → Answer q × σ}
    {answer' : τ → (q : Question) → Answer q × τ} {R : σ → τ → Prop} {s : σ} {t : τ}
    (h : Alike same ends d d')
    (hanswer : ∀ s t q, R s t → same q (answer s q).1 (answer' t q).1 ∧
      R (answer s q).2 (answer' t q).2) (hR : R s t) :
    ends (run answer s d).1 (run answer' t d').1 ∧ R (run answer s d).2 (run answer' t d').2 := by
  induction h generalizing s t with
  | done h => exact ⟨h, hR⟩
  | ask _ ih =>
    obtain ⟨hsame, hnext⟩ := hanswer s t _ hR
    exact ih _ _ hsame hnext

end Dialog

/-- Two answers to a question are the same but for what a failure says. Of a delivery nothing counts
but whether it has failed. -/
def Ask.SameBut : (q : Ask) → q.Answer → q.Answer → Prop
  | .store _, a, b => a.mapError StoreError.bare = b.mapError StoreError.bare
  | .cache _, a, b => a.mapError CacheError.bare = b.mapError CacheError.bare
  | .deliver _ _, a, b => a.toOption = b.toOption
  | .clock, a, b | .freshId, a, b | .freshCode, a, b | .freshSalt, a, b => a = b

namespace Session

open Operation
open Dialog (Alike)

variable {s : Settings} {α β ε : Type} {bare : ε → ε}

/-! ## Operations that are alike in two runs -/

/-- In two runs an operation asks the same and ends the same, but for what failures say. -/
structure Hides (bare : ε → ε) (op : ExceptT ε Program α) : Prop where
  alike : Alike Ask.SameBut (fun x y => x.mapError bare = y.mapError bare) op.run op.run

theorem Hides.bind {op : ExceptT ε Program α} {f : α → ExceptT ε Program β} (h : Hides bare op)
    (hf : ∀ a, Hides bare (f a)) : Hides bare (op >>= f) := by
  refine ⟨Alike.bind (d := op.run) h.alike fun x y hxy => ?_⟩
  match x, y, hxy with
  | .ok a, .ok b, hxy =>
    obtain rfl := Except.ok.inj hxy
    exact (hf a).alike
  | .error e, .error e', hxy => exact .done (congrArg Except.error (Except.error.inj hxy))

theorem hides_pure (a : α) : Hides bare (pure a : ExceptT ε Program α) := ⟨.done rfl⟩

theorem hides_failIf (c : Bool) (e : ε) : Hides bare (failIf c e : ExceptT ε Program Unit) := by
  cases c <;> exact ⟨.done rfl⟩

theorem hides_orFail (e : ε) (o : Option α) : Hides bare (orFail e o : ExceptT ε Program α) := by
  cases o <;> exact ⟨.done rfl⟩

theorem hides_ofExcept (x : Except ε α) : Hides bare (ofExcept x : ExceptT ε Program α) := by
  cases x <;> exact ⟨.done rfl⟩

/-- A question whose answers are the same in both runs. -/
theorem hides_ask {q : Ask} (hq : ∀ a b, q.SameBut a b → a = b) :
    Hides bare (ExceptT.lift (Program.lift q) : ExceptT ε Program q.Answer) := by
  refine ⟨.ask fun a b h => ?_⟩
  obtain rfl := hq a b h
  exact .done rfl

theorem clock_hides : Hides bare (ExceptT.lift (Program.lift .clock) : ExceptT ε Program _) :=
  hides_ask fun _ _ h => h

theorem hides_storeOr {onError : StoreError → AuthError} (q : Store.Request)
    (h : ∀ e, (onError e).bare = (onError e.bare).bare) :
    Hides AuthError.bare (storeOr onError q) := by
  refine ⟨.ask fun x y hxy => ?_⟩
  match x, y, hxy with
  | .ok a, .ok b, hxy =>
    obtain rfl := Except.ok.inj hxy
    exact .done rfl
  | .error e, .error e', hxy =>
    have he : e.bare = e'.bare := Except.error.inj hxy
    exact .done (congrArg Except.error (by rw [h e, h e', he]))

theorem hides_cacheOr {onError : CacheError → AuthError} (q : Cache.Request)
    (h : ∀ e, (onError e).bare = (onError e.bare).bare) :
    Hides AuthError.bare (cacheOr onError q) := by
  refine ⟨.ask fun x y hxy => ?_⟩
  match x, y, hxy with
  | .ok a, .ok b, hxy =>
    obtain rfl := Except.ok.inj hxy
    exact .done rfl
  | .error e, .error e', hxy =>
    have he : e.bare = e'.bare := Except.error.inj hxy
    exact .done (congrArg Except.error (by rw [h e, h e', he]))

theorem store_hides (q : Store.Request) : Hides AuthError.bare (store q) :=
  hides_storeOr q fun e => by cases e <;> rfl

theorem cache_hides (q : Cache.Request) : Hides AuthError.bare (cache q) :=
  hides_cacheOr q fun e => by cases e <;> rfl

/-- However a delivery fails, it is a failed delivery. -/
theorem bare_deliveryFailed (e : AuthError) : (deliveryFailed e).bare = .delivery "" := by
  cases e <;> rfl

theorem deliver_hides (identifier code : String) :
    Hides AuthError.bare (deliver identifier code) := by
  refine ⟨.ask fun x y hxy => ?_⟩
  match x, y, hxy with
  | .ok a, .ok b, _ => exact .done rfl
  | .error e, .error e', _ =>
    exact .done (congrArg Except.error (by rw [bare_deliveryFailed, bare_deliveryFailed]))

/-! ## Minting and checking -/

theorem permissionsFor_hides (role : Option Int) : Hides AuthError.bare (permissionsFor role) := by
  cases role with
  | none => exact hides_pure []
  | some role => exact store_hides _

theorem issue_hides (kind : TokenKind) (u : Int) (email : String) (permissions : List String)
    (now : Time.Instant) : Hides AuthError.bare (issue s kind u email permissions now) := by
  refine (hides_ofExcept _).bind fun expiresAt => ?_
  refine Hides.bind (hides_ask fun _ _ h => h) fun id => ?_
  exact hides_pure _

theorem markLive_hides (u : Int) (issued : Token.Issued) (now : Time.Instant) :
    Hides AuthError.bare (markLive s u issued now) := by
  refine (hides_orFail _ _).bind fun left => ?_
  exact hides_cacheOr _ fun e => by cases e <;> rfl

theorem createPair_hides (u : Int) (email : String) (now : Time.Instant) :
    Hides AuthError.bare (createPair s u email now) := by
  refine (store_hides _).bind fun found => ?_
  refine (hides_orFail _ _).bind fun user => ?_
  refine (permissionsFor_hides _).bind fun permissions => ?_
  refine (issue_hides ..).bind fun access => ?_
  refine (issue_hides ..).bind fun refresh => ?_
  refine (hides_storeOr _ fun e => by cases e <;> rfl).bind fun _ => ?_
  refine (markLive_hides ..).bind fun _ => ?_
  exact hides_pure _

theorem verify_hides (kind : TokenKind) (token : String) :
    Hides AuthError.bare (verify s kind token) := by
  refine (hides_ofExcept _).bind fun signed => ?_
  refine clock_hides.bind fun now => ?_
  exact hides_ofExcept _

theorem isAlive_hides (u : Int) (id : String) : Hides AuthError.bare (isAlive s u id) := by
  refine (cache_hides _).bind fun left => ?_
  cases left with
  | none => exact hides_pure _
  | some left =>
    dsimp only
    split
    · exact hides_pure _
    · exact (cache_hides _).bind fun marker => hides_pure _

/-! ## Calls -/

theorem register_hides (r : Registration) : Hides AuthError.bare (register s r) := by
  refine (hides_failIf _ _).bind fun _ => ?_
  refine (hides_failIf _ _).bind fun _ => ?_
  refine (hides_ofExcept _).bind fun birthDate => ?_
  refine Hides.bind (hides_ask fun _ _ h => h) fun salt => ?_
  refine (store_hides _).bind fun u => ?_
  refine clock_hides.bind fun now => ?_
  exact createPair_hides ..

theorem login_hides (email password : String) : Hides AuthError.bare (login s email password) := by
  refine (store_hides _).bind fun found => ?_
  refine (hides_orFail _ _).bind fun credentials => ?_
  refine (hides_ofExcept _).bind fun isRight => ?_
  refine (hides_failIf _ _).bind fun _ => ?_
  refine clock_hides.bind fun now => ?_
  exact createPair_hides ..

theorem refresh_hides (token : String) : Hides AuthError.bare (refresh s token) := by
  refine (verify_hides ..).bind fun claims => ?_
  refine clock_hides.bind fun now => ?_
  refine (store_hides _).bind fun found => ?_
  refine (hides_orFail _ _).bind fun record => ?_
  refine (hides_failIf _ _).bind fun _ => ?_
  refine (hides_failIf _ _).bind fun _ => ?_
  refine (store_hides _).bind fun found => ?_
  refine (hides_orFail _ _).bind fun user => ?_
  refine (issue_hides ..).bind fun next => ?_
  refine (store_hides _).bind fun rotated => ?_
  refine (hides_failIf _ _).bind fun _ => ?_
  refine (permissionsFor_hides _).bind fun permissions => ?_
  refine (issue_hides ..).bind fun access => ?_
  refine (markLive_hides ..).bind fun _ => ?_
  exact hides_pure _

theorem logout_hides (u : Int) (token : String) : Hides AuthError.bare (logout s u token) := by
  refine (hides_failIf _ _).bind fun _ => ?_
  refine (verify_hides ..).bind fun claims => ?_
  refine (hides_failIf _ _).bind fun _ => ?_
  refine (store_hides _).bind fun _ => ?_
  refine (cache_hides _).bind fun _ => ?_
  exact hides_pure _

theorem sendCode_hides (identifier : String) : Hides AuthError.bare (sendCode s identifier) := by
  refine (hides_failIf _ _).bind fun _ => ?_
  refine Hides.bind ?_ fun code => ?_
  · unfold newCode
    split
    · exact hides_pure _
    · exact hides_ask fun _ _ h => h
  · refine (cache_hides _).bind fun _ => ?_
    exact deliver_hides ..

theorem signInOwner_hides (owner : Option User) : Hides AuthError.bare (signInOwner s owner) := by
  cases owner with
  | none => exact hides_pure _
  | some user =>
    refine clock_hides.bind fun now => ?_
    refine (createPair_hides ..).bind fun pair => ?_
    exact hides_pure _

theorem confirmCode_hides (identifier code : String) :
    Hides AuthError.bare (confirmCode s identifier code) := by
  refine (hides_failIf _ _).bind fun _ => ?_
  refine (cache_hides _).bind fun found => ?_
  refine (hides_orFail _ _).bind fun stored => ?_
  refine (hides_failIf _ _).bind fun _ => ?_
  refine (cache_hides _).bind fun removed => ?_
  refine (hides_failIf _ _).bind fun _ => ?_
  refine (store_hides _).bind fun owner => ?_
  exact signInOwner_hides owner

theorem revokeAll_hides (u : Int) : Hides AuthError.bare (revokeAll s u) := by
  refine (store_hides _).bind fun revoked => ?_
  refine (cache_hides _).bind fun _ => ?_
  exact hides_pure _

theorem deleteAccount_hides (u : Int) : Hides AuthError.bare (deleteAccount s u) := by
  refine (store_hides _).bind fun found => ?_
  refine (hides_failIf _ _).bind fun _ => ?_
  refine (revokeAll_hides u).bind fun _ => ?_
  exact hides_pure _

theorem profile_hides (u : Int) : Hides AuthError.bare (profile u) :=
  (store_hides _).bind fun _ => hides_orFail _ _

end Session

end SignIn
