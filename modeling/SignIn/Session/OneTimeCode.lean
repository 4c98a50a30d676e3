-- One-time codes: a challenge is stored under its identifier and delivered;
-- the right code consumes it and signs in the owner of the phone.
import SignIn.Session.Tokens
import SignIn.Text.Lowercase

namespace SignIn.Session

open Operation
open Text (normalize)

/-- The fixed code, if there is one that is not blank. -/
def fixedCode? (fixed : Option String) : Option String :=
  (fixed.map Text.trim).filter fun code => !code.isEmpty

/-- The code of a new challenge: the fixed one, or a random one. -/
def newCode (fixed : Option String) : Operation String :=
  match fixedCode? fixed with
  | some code => pure code
  | none => ask .freshCode

/-- What a failed delivery means. -/
def deliveryFailed : AuthError → AuthError
  | .delivery text => .delivery text
  | e => .delivery e.message

/-- Hands a code to its owner. -/
def deliver (identifier code : String) : Operation Unit :=
  ExceptT.mk (do
    match ← Program.lift (.deliver identifier code) with
    | .ok _ => pure (.ok ())
    | .error e => pure (.error (deliveryFailed e)))

/-- Stores a new challenge for an identifier and has its code delivered. -/
def sendCode (s : Settings) (identifier : String) : Operation Unit := do
  let identifier := normalize identifier
  failIf identifier.isEmpty (.validation "identifier is required")
  let code ← newCode s.fixedCode
  cache (.set (s.codeKey identifier) code Settings.codeLifetime)
  deliver identifier code

/-- Signs in the owner of a phone, if it has one. -/
def signInOwner (s : Settings) : Option User → Operation Confirmation
  | none => return ⟨true, false, none⟩
  | some user => do
    let tokens ← createPair s user.id user.email (← clock)
    return ⟨true, true, some tokens⟩

/-- Checks a code. A wrong one leaves the challenge in place; the right one consumes it, for the one
caller that removes it, and signs in the owner of the phone, if there is one. -/
def confirmCode (s : Settings) (identifier code : String) : Operation Confirmation := do
  let identifier := normalize identifier
  let code := normalize code
  failIf (identifier.isEmpty || code.isEmpty) (.validation "identifier and code are required")
  let key := s.codeKey identifier
  let stored ← orFail .codeInvalidOrExpired (← cache (.get key))
  failIf (stored != code) .codeMismatch
  let removed ← cache (.delete key)
  failIf (!removed) .codeInvalidOrExpired
  signInOwner s (← store (.findByPhone identifier))

end SignIn.Session
