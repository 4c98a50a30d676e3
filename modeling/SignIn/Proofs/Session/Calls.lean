-- The operations of the service as calls that clients make. What those of them
-- ask that mint nothing is said once, whatever they are answered.
import SignIn.Proofs.Session.Parts

namespace SignIn.Session

open Dialog (Ensures Along ensures_pure ensures_bind ensures_failIf ensures_orFail ensures_ofExcept)
open Operation
open Text (normalize)

/-- A call of an operation of the service. -/
inductive Call
  | register (r : Registration)
  | login (email password : String)
  | refresh (token : String)
  | logout (userId : Int) (token : String)
  | sendCode (identifier : String)
  | confirmCode (identifier code : String)
  | revokeAll (userId : Int)
  | deleteAccount (userId : Int)
  | purge
  | profile (userId : Int)
  | emailExists (email : String)
  | isAlive (userId : Int) (id : String)
  deriving DecidableEq

/-- What a call answers: whether it fails, and the pair of tokens that it mints, if it mints one. -/
abbrev Reply := Except AuthError (Option TokenPair)

/-- The operation that is called. -/
def Call.operation (s : Settings) : Call → Operation (Option TokenPair)
  | .register r => do return some (← Session.register s r)
  | .login email password => do return some (← Session.login s email password)
  | .refresh token => do return some (← Session.refresh s token)
  | .logout userId token => do
    Session.logout s userId token
    return none
  | .sendCode identifier => do
    Session.sendCode s identifier
    return none
  | .confirmCode identifier code => do return (← Session.confirmCode s identifier code).tokens
  | .revokeAll userId => do
    let _ ← Session.revokeAll s userId
    return none
  | .deleteAccount userId => do
    Session.deleteAccount s userId
    return none
  | .purge => do
    let _ ← Session.purge s
    return none
  | .profile userId => do
    let _ ← Session.profile userId
    return none
  | .emailExists email => do
    let _ ← Session.emailExists email
    return none
  | .isAlive userId id => do
    let _ ← Session.isAlive s userId id
    return none

/-- The operation that is called, as the dialog that it leads. -/
def Call.program (s : Settings) (c : Call) : Program Reply := (c.operation s).run

/-- The pair that a call has minted, if it has. -/
def mintedBy : Reply → Option TokenPair
  | .ok pair => pair
  | .error _ => none

/-! ## Calls that mint nothing -/

/-- Whether a call mints a pair of tokens when it succeeds, or may do so. -/
def Call.mints : Call → Bool
  | .register _ | .login _ _ | .refresh _ | .confirmCode _ _ => true
  | _ => false

/-- The questions that are asked by a call that mints nothing. -/
def Call.Poses (s : Settings) (c : Call) (q : Ask) : Prop :=
  match c with
  | .logout u t => q = .clock ∨ q = .store (.revokeToken (Text.trim t)) ∨
    q = .cache (.delete (s.accessKey u))
  | .sendCode identifier => q = .freshCode ∨
    (∃ code, q = .cache (.set (s.codeKey (normalize identifier)) code Settings.codeLifetime)) ∨
    ∃ code, q = .deliver (normalize identifier) code
  | .revokeAll u => q = .store (.revokeAll u) ∨ q = .cache (.delete (s.accessKey u))
  | .deleteAccount u => q = .store (.softDelete u) ∨ q = .store (.revokeAll u) ∨
    q = .cache (.delete (s.accessKey u))
  | .purge => q = .store (.purge s.retention)
  | .profile u => q = .store (.findUser u)
  | .emailExists email => q = .store (.emailExists (normalize email))
  | .isAlive u _ => q = .cache (.timeLeft (s.accessKey u)) ∨ q = .cache (.get (s.accessKey u))
  | .register _ | .login _ _ | .refresh _ | .confirmCode _ _ => False

variable {s : Settings}

theorem logout_poses (u : Int) (t : String) :
    HoldsTo (Call.Poses s (.logout u t)) (logout s u t) fun _ => True := by
  refine ensures_logout (along_freely fun _ hq => Or.inl hq) (fun _ _ _ => trivial) fun _ _ _ => ?_
  refine holdsTo_bind (holdsTo_storeOr (Or.inr (Or.inl rfl)) fun _ => ?_)
  exact holdsTo_bind (holdsTo_cacheOr (Or.inr (Or.inr rfl)) fun _ => ensures_pure trivial)

theorem sendCode_poses (identifier : String) :
    HoldsTo (Call.Poses s (.sendCode identifier)) (sendCode s identifier) fun _ => True := by
  have hnew : HoldsTo (Call.Poses s (.sendCode identifier)) (newCode s.fixedCode)
      fun _ => True := by
    unfold newCode
    split
    · exact ensures_pure trivial
    · exact holdsTo_ask (Or.inl rfl) fun _ => trivial
  unfold sendCode
  refine holdsTo_bind (ensures_failIf (fun _ => trivial) fun _ => ?_)
  refine holdsTo_bind (hnew.weaken (fun _ h => h) fun code _ => ?_)
  refine holdsTo_bind (holdsTo_cacheOr (Or.inr (Or.inl ⟨code, rfl⟩)) fun _ => ?_)
  refine ⟨And.intro (Or.inr (Or.inr ⟨code, rfl⟩)) fun a _ _ => ?_⟩
  cases a <;> exact trivial

theorem revokeAll_asks {allows : Ask → Prop} {u : Int} (hrevoke : allows (.store (.revokeAll u)))
    (hdelete : allows (.cache (.delete (s.accessKey u)))) :
    HoldsTo allows (revokeAll s u) fun _ => True := by
  unfold revokeAll
  refine holdsTo_bind (holdsTo_storeOr hrevoke fun _ => ?_)
  exact holdsTo_bind (holdsTo_cacheOr hdelete fun _ => ensures_pure trivial)

theorem revokeAll_poses (u : Int) :
    HoldsTo (Call.Poses s (.revokeAll u)) (revokeAll s u) fun _ => True :=
  revokeAll_asks (Or.inl rfl) (Or.inr rfl)

theorem deleteAccount_poses (u : Int) :
    HoldsTo (Call.Poses s (.deleteAccount u)) (deleteAccount s u) fun _ => True := by
  unfold deleteAccount
  refine holdsTo_bind (holdsTo_storeOr (Or.inl rfl) fun _ => ?_)
  refine holdsTo_bind (ensures_failIf (fun _ => trivial) fun _ => ?_)
  exact holdsTo_bind ((revokeAll_asks (Or.inr (Or.inl rfl)) (Or.inr (Or.inr rfl))).weaken
    (fun _ h => h) fun _ _ => ensures_pure trivial)

theorem profile_poses (u : Int) :
    HoldsTo (Call.Poses s (.profile u)) (profile u) fun _ => True := by
  unfold profile
  refine holdsTo_bind (holdsTo_storeOr rfl fun _ => ?_)
  exact ensures_orFail (fun _ _ => trivial) fun _ => trivial

theorem isAlive_poses (u : Int) (id : String) :
    HoldsTo (Call.Poses s (.isAlive u id)) (isAlive s u id) fun _ => True := by
  unfold isAlive
  refine holdsTo_bind (holdsTo_cacheOr (Or.inl rfl) fun left => ?_)
  cases left with
  | none => exact ensures_pure trivial
  | some left =>
    dsimp only
    split
    · exact ensures_pure trivial
    · exact holdsTo_bind (holdsTo_cacheOr (Or.inr rfl) fun _ => ensures_pure trivial)

/-- Whatever it is answered, a call that mints nothing asks only its own questions. -/
theorem Call.operation_poses {c : Call} (hc : c.mints = false) :
    HoldsTo (c.Poses s) (c.operation s) fun minted => minted = none := by
  have hnone : ∀ {α : Type} {op : Operation α}, HoldsTo (c.Poses s) op (fun _ => True) →
      HoldsTo (c.Poses s) (do let _ ← op; return (none : Option TokenPair))
        fun minted => minted = none :=
    fun h => holdsTo_bind (h.weaken (fun _ h => h) fun _ _ => ensures_pure rfl)
  cases c with
  | register | login | refresh | confirmCode => cases hc
  | logout u t => exact hnone (logout_poses u t)
  | sendCode identifier => exact hnone (sendCode_poses identifier)
  | revokeAll u => exact hnone (revokeAll_poses u)
  | deleteAccount u => exact hnone (deleteAccount_poses u)
  | purge => exact hnone (holdsTo_storeOr rfl fun _ => trivial)
  | profile u => exact hnone (profile_poses u)
  | emailExists email => exact hnone (holdsTo_storeOr rfl fun _ => trivial)
  | isAlive u id => exact hnone (isAlive_poses u id)

/-- Whoever answers: where the questions of a call that mints nothing may be asked, it leads along
with them. -/
theorem Call.ensures_of_poses {σ : Type} {turn : σ → (q : Ask) → q.Answer → σ → Prop}
    {asks : σ → Ask → Prop} {R : σ → σ → Prop} {x : σ} {c : Call} (hc : c.mints = false)
    (h : Along turn asks (c.Poses s) R x) :
    Ensures turn asks x (c.operation s) (fun minted y => minted = none ∧ R x y)
      fun _ y => R x y :=
  (h.ensures (Call.operation_poses hc)).imp (fun _ _ h => h) fun _ _ h => h.2

end SignIn.Session
