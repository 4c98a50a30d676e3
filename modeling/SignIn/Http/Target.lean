-- Request targets and the paths of the service.
import SignIn.Codec.Percent
import SignIn.Text.Decimal

namespace SignIn.Http

/-! ## Targets -/

/-- The characters behind `://`, if there is one. -/
def afterScheme? : List Char → Option (List Char)
  | ':' :: '/' :: '/' :: r => some r
  | _ :: r => afterScheme? r
  | [] => none

/-- The path of a target, without query and fragment. A target with a scheme and a host has a path
of its own, or the root. -/
def pathOf (target : String) : String :=
  let cs := target.toList.takeWhile fun c => c != '?' && c != '#'
  match cs with
  | '/' :: _ => String.ofList cs
  | _ =>
    match afterScheme? cs with
    | none => String.ofList cs
    | some r =>
      match r.dropWhile (· != '/') with
      | [] => "/"
      | path => String.ofList path

/-! ## Routes -/

/-- Where a path leads. -/
inductive Route
  | registration
  | login
  | refresh
  | logout
  | sendCode
  | confirmCode
  | ownAccount
  /-- The sessions of the user that the segment of the path names. -/
  | revokeSessions (segment : String)
  deriving DecidableEq, Repr

/-- The text between two others. -/
def between? (before after path : String) : Option String :=
  let cs := path.toList
  let (b, a) := (before.toList, after.toList)
  if b.isPrefixOf cs && a.isSuffixOf (cs.drop b.length) then
    some (String.ofList ((cs.drop b.length).take (cs.length - b.length - a.length)))
  else none

/-- The route of a path. The segment that names a user may be empty, as in `users//sessions/revoke`:
this is a path of the route, and it is `userIdOf` that refuses the segment. -/
def Route.ofPath? (path : String) : Option Route :=
  match path with
  | "/api/v1/auth/registration" => some .registration
  | "/api/v1/auth/login" => some .login
  | "/api/v1/auth/refresh" => some .refresh
  | "/api/v1/auth/logout" => some .logout
  | "/api/v1/auth/otp/send" => some .sendCode
  | "/api/v1/auth/otp/confirm" => some .confirmCode
  | "/api/v1/users/me" => some .ownAccount
  | path =>
    match between? "/api/v1/admin/users/" "/sessions/revoke" path with
    | some segment => if segment.contains '/' then none else some (.revokeSessions segment)
    | none => none

/-- Whether the route is open to everyone. -/
def Route.isPublic : Route → Bool
  | .ownAccount => false
  | .revokeSessions _ => false
  | _ => true

/-- The methods of a route, as they are listed. -/
def Route.allow : Route → String
  | .ownAccount => "GET,HEAD,DELETE"
  | _ => "POST"

/-- The user that a segment of a path names. -/
def userIdOf (segment : String) : Except String Int :=
  match Codec.Percent.decode? segment with
  | none => .error "Invalid URL: Invalid UTF-8 in `user_id`"
  | some s =>
    match Text.Decimal.parseInt? Text.Decimal.int64Low Text.Decimal.int64High s with
    | some n => .ok n
    | none => .error ("Invalid URL: Cannot parse `" ++ s ++ "` to a `i64`")

end SignIn.Http
