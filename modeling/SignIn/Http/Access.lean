-- Who may pass: the bearer of a live access token, and of these who holds
-- the permissions that a route requires.
import SignIn.Http.ApiError
import SignIn.Session.Account

namespace SignIn.Http

/-! ## Required permissions -/

/-- The names that a route requires: trimmed, without blank ones. -/
def requiredNames (names : List String) : List String :=
  (names.map Text.trim).filter fun name => !name.isEmpty

/-- The required names that are not held, in order. -/
def missingNames (required held : List String) : List String :=
  required.filter fun name => !held.contains name

/-- Who a request comes from. -/
structure Principal where
  userId : Int
  email : String
  permissions : List String
  deriving DecidableEq

/-- Lets a request pass if its principal holds all required names. Without any a principal is not
needed. -/
def enforce (required : List String) (principal : Option Principal) : Except ApiError Unit :=
  if required.isEmpty then .ok ()
  else match principal with
    | none => .error (.forbidden "Permissions are missing in context")
    | some p =>
      let missing := missingNames required p.permissions
      if missing.isEmpty then .ok () else .error (.missingPermissions missing)

def viewOwnProfile : String := "profile.view.own"
def deleteOwnProfile : String := "profile.delete.own"
def revokeAnySessions : String := "sessions.revoke.any"

/-! ## Bearers -/

/-- The token of a header: what follows `Bearer` and a blank, trimmed, if anything does. -/
def bearerToken? (header : String) : Option String :=
  let scheme := "Bearer ".toList
  if scheme.isPrefixOf header.toList then
    let token := Text.trim (String.ofList (header.toList.drop scheme.length))
    if token.isEmpty then none else some token
  else none

/-- The result of an operation whose failure is told in other words. -/
def orUnauthorized {α : Type} (text : String) (op : Operation α) : ExceptT ApiError Program α :=
  ExceptT.mk (do
    match ← op.run with
    | .ok a => pure (.ok a)
    | .error _ => pure (.error (.unauthorized text)))

/-- Admits the bearer of an access token that holds now, whose email an account has, and that is the
live one of its user. -/
def authenticate (s : Settings) (r : Request) : ExceptT ApiError Program Principal := do
  let header ← orFail (.unauthorized "Missing authorization header") (r.readable? "authorization")
  let token ← orFail (.unauthorized "Invalid authorization scheme") (bearerToken? header)
  let claims ← orUnauthorized "Invalid or expired token" (Session.verify s .access token)
  failIf claims.email.isEmpty (.unauthorized "Token carries no email")
  let isKnown ← orUnauthorized "Unable to verify user" (Session.emailExists claims.email)
  failIf (!isKnown) (.unauthorized "User no longer exists")
  let alive ← orUnauthorized "Unable to verify session" (Session.isAlive s claims.userId claims.id)
  failIf (!alive) (.unauthorized "Session is no longer active")
  let now : Time.Instant ← ExceptT.lift (Program.lift .clock)
  failIf (claims.expiresAt ≤ now.unixSeconds) (.unauthorized "Token has expired")
  return ⟨claims.userId, claims.email, claims.permissions⟩

end SignIn.Http
