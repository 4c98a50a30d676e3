-- The service: which request leads to which operation, who is let through
-- to it, and what is answered.
import SignIn.Http.Access
import SignIn.Http.Bodies
import SignIn.Http.Target
import SignIn.Session.Refresh
import SignIn.Session.OneTimeCode

namespace SignIn.Http

open Session

/-! ## Endpoints -/

/-- Runs an operation and answers its result. -/
def answer {α : Type} (op : Operation α) (onError : AuthError → ApiError) (onOk : α → Response) :
    Program Response := do
  match ← op.run with
  | .ok a => return onOk a
  | .error e => return (onError e).response

/-- Reads the body of a request for an endpoint. -/
def withBody {α : Type} (read : Json.Reader α) (r : Request) (f : α → Program Response) :
    Program Response :=
  match readBody read r with
  | .ok a => f a
  | .error refusal => return refusal

/-- A failed login as it is answered: an unknown email looks like a wrong password. -/
def loginError : AuthError → ApiError
  | .userNotFound => .invalidCredentials
  | e => .ofAuth e

/-- Answers a request to a route that is open to everyone. -/
def answerPublic (s : Settings) (r : Request) : Route → Program Response
  | .registration => withBody Registration.read r fun body =>
    answer (register s body) .ofAuth fun pair => .json 201 (pairJson pair)
  | .login => withBody LoginBody.read r fun body =>
    answer (login s body.email body.password) loginError fun pair => .json 200 (pairJson pair)
  | .refresh => withBody RefreshBody.read r fun body =>
    answer (refresh s (Text.trim body.refreshToken)) .ofAuth fun pair => .json 200 (pairJson pair)
  | .logout => withBody LogoutBody.read r fun body =>
    answer (logout s body.userId body.refreshToken) .ofAuth fun _ => .json 200 logoutJson
  | .sendCode => withBody SendCodeBody.read r fun body =>
    answer (sendCode s body.identifier) .ofAuth fun _ => .json 200 sentJson
  | .confirmCode => withBody ConfirmCodeBody.read r fun body =>
    answer (confirmCode s body.identifier body.code) .ofAuth fun c =>
      .json 200 (ConfirmationBody.ofConfirmation c).json
  | .ownAccount => return .bare 404
  | .revokeSessions _ => return .bare 404

/-- Lets a principal through who holds the permission. -/
def guarded (permission : String) (p : Principal) (next : Program Response) : Program Response :=
  match enforce (requiredNames [permission]) (some p) with
  | .ok _ => next
  | .error e => return e.response

/-- Answers a request for one's own account. -/
def answerProfile (p : Principal) : Program Response :=
  guarded viewOwnProfile p
    (answer (profile p.userId) .ofAuth fun user => .json 200 (ProfileBody.ofUser user).json)

/-- Deletes one's own account. -/
def answerDeletion (s : Settings) (p : Principal) : Program Response :=
  guarded deleteOwnProfile p
    (answer (deleteAccount s p.userId) .ofAuth fun _ => .bare 204)

/-- Revokes the sessions of the user that the segment names. -/
def answerRevocation (s : Settings) (p : Principal) (segment : String) : Program Response :=
  guarded revokeAnySessions p
    (match userIdOf segment with
    | .error text => return .plain 400 text
    | .ok userId =>
      answer (revokeAll s userId) .ofAuth fun n => .json 200 (revokedJson userId n))

/-- Answers a principal's request: the endpoint, or none for the method or the path. -/
def answerPrincipal (s : Settings) (r : Request) (p : Principal) : Option Route → Program Response
  | some .ownAccount =>
    if r.method = "GET" ∨ r.method = "HEAD" then answerProfile p
    else if r.method = "DELETE" then answerDeletion s p
    else return .bare 405
  | some (.revokeSessions segment) =>
    if r.method = "POST" then answerRevocation s p segment else return .bare 405
  | _ => return .bare 404

/-- Whether a route has an endpoint for the method. -/
def allows (method : String) : Route → Bool
  | .ownAccount => method = "GET" ∨ method = "HEAD" ∨ method = "DELETE"
  | _ => method = "POST"

/-- A response with the methods of the route, where the request's own is none of them. -/
def withAllow (r : Request) (route : Option Route) (response : Response) : Response :=
  match route with
  | none => response
  | some route =>
    if allows r.method route then response else response.withHeader "allow" route.allow

/-- Answers a request for a protected route, or for none: its bearer is authenticated first. -/
def answerProtected (s : Settings) (r : Request) (route : Option Route) : Program Response := do
  match ← (authenticate s r).run with
  | .error e => return e.response
  | .ok p => answerPrincipal s r p route

/-! ## Other origins -/

/-- The response with the headers that open it to all origins. -/
def openToAll (response : Response) : Response :=
  (response.withHeader "access-control-allow-origin" "*").withHeader "vary"
    "origin, access-control-request-method, access-control-request-headers"

/-- The answer to the question what a page of another origin may ask for: all. -/
def preflight : Response :=
  ((Response.bare 200).withHeader "access-control-allow-methods" "*").withHeader
    "access-control-allow-headers" "*"

/-! ## The service -/

/-- Answers a request by its route. A page of another origin may ask anything of any path. -/
def answerRoute (s : Settings) (r : Request) (route : Option Route) : Program Response :=
  if r.method = "OPTIONS" then return preflight
  else match route with
    | none => answerProtected s r none
    | some route =>
      if route.isPublic then
        if r.method = "POST" then answerPublic s r route else return .bare 405
      else answerProtected s r (some route)

/-- The response with what every answer carries, and without a body where none is wanted. -/
def finish (r : Request) (route : Option Route) (response : Response) : Response :=
  let response := openToAll (withAllow r route response)
  if r.method = "HEAD" then response.withoutBody else response

/-- Answers a request. To `HEAD` the answer is the one to `GET` without what it carries. -/
def respond (s : Settings) (r : Request) : Program Response := do
  let route := Route.ofPath? (pathOf r.target)
  return finish r route (← answerRoute s r route)

end SignIn.Http
