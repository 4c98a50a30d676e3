-- Failures as clients see them. What went wrong inside never shows.
import SignIn.Http.Message
import SignIn.Error
import SignIn.Json.Record
import SignIn.Text.Quoted

namespace SignIn.Http

/-- A failure as it is answered. -/
inductive ApiError
  | validation (text : String)
  | notFound (text : String)
  | conflict (text : String)
  | unauthorized (text : String)
  | invalidCredentials
  | forbidden (text : String)
  | missingPermissions (names : List String)
  | rejected (status : Nat) (code text : String)
  | unavailable (text : String)
  | internal (detail : String)
  deriving DecidableEq, Repr

/-- What the body of a failure says. -/
structure ErrorBody where
  code : String
  text : String
  missing : Option (List String)
  deriving DecidableEq, Repr

namespace ErrorBody

open Json (Field Codec Values)

/-- The fields of the body. -/
def record : Json.Record :=
  [Field.required "error" Codec.text,
    Field.required "message" Codec.text,
    Field.sparse "missing" Codec.text.list]

def toValues (b : ErrorBody) : Values record := (b.code, b.text, b.missing, ())

def ofValues : Values record → ErrorBody
  | (code, text, missing, ()) => ⟨code, text, missing⟩

/-- The body as JSON. -/
def json (b : ErrorBody) : Json := Json.write record b.toValues

def read : Json.Reader ErrorBody := do return ofValues (← Json.readRecord record)

end ErrorBody

namespace ApiError

/-- The failure in words, for a log. -/
def message : ApiError → String
  | .validation text => "Validation error: " ++ text
  | .notFound text => "Not found: " ++ text
  | .conflict text => "Conflict: " ++ text
  | .unauthorized text => "Unauthorized: " ++ text
  | .invalidCredentials => "Invalid credentials"
  | .forbidden text => "Forbidden: " ++ text
  | .missingPermissions names => "Missing permissions: " ++ Text.quotedList names
  | .rejected _ code text => code ++ ": " ++ text
  | .unavailable text => "Service unavailable: " ++ text
  | .internal _ => "Internal server error"

def status : ApiError → Nat
  | .validation _ => 400
  | .notFound _ => 404
  | .conflict _ => 409
  | .unauthorized _ => 401
  | .invalidCredentials => 401
  | .forbidden _ => 403
  | .missingPermissions _ => 403
  | .rejected status _ _ => status
  | .unavailable _ => 503
  | .internal _ => 500

/-- What the body of the response says. -/
def body : ApiError → ErrorBody
  | .validation text => ⟨"validation_error", text, none⟩
  | .notFound text => ⟨"not_found", text, none⟩
  | .conflict text => ⟨"conflict", text, none⟩
  | .unauthorized text => ⟨"unauthorized", text, none⟩
  | .invalidCredentials => ⟨"invalid_credentials", "Invalid email or password", none⟩
  | .forbidden text => ⟨"forbidden", text, none⟩
  | .missingPermissions names =>
    ⟨"insufficient_permissions", "Insufficient permissions", some names⟩
  | .rejected _ code text => ⟨code, text, none⟩
  | .unavailable text => ⟨"unavailable", text, none⟩
  | .internal _ => ⟨"internal_error", "Internal server error", none⟩

/-- The response. -/
def response (e : ApiError) : Response := .json e.status e.body.json

/-- A failure of an operation as it is answered. -/
def ofAuth (e : AuthError) : ApiError :=
  if e.isCancelled then .unavailable "Request cancelled"
  else match e with
    | .validation text => .validation text
    | .parse text => .rejected 400 "parse_error" text
    | .invalidToken _ => .rejected 401 "invalid_token" "Invalid or expired token"
    | .tokenOwnership => .forbidden "Token does not belong to user"
    | .refreshTokenNotFound => .rejected 401 "refresh_token_not_found" "Refresh token not found"
    | .refreshTokenRevoked => .rejected 401 "refresh_token_revoked" "Refresh token has been revoked"
    | .refreshTokenExpired => .rejected 401 "refresh_token_expired" "Refresh token has expired"
    | .refreshTokenInvalid =>
      .rejected 401 "refresh_token_invalid" "Refresh token is no longer valid"
    | .userNotFound => .notFound "User not found"
    | .invalidCredentials => .invalidCredentials
    | .codeInvalidOrExpired => .rejected 400 "otp_invalid_or_expired" "OTP is invalid or expired"
    | .codeMismatch => .rejected 400 "otp_mismatch" "OTP does not match"
    | .delivery _ => .rejected 502 "otp_delivery_failed" "Could not send OTP"
    | .repository (.conflict _) =>
      .conflict "User with this email or phone number already exists"
    | .tokenCreation text => .internal ("token creation: " ++ text)
    | .repository e => .internal ("repository: " ++ e.message)
    | .cache e => .internal ("cache: " ++ e.message)
    | .internal text => .internal text

end ApiError

end SignIn.Http
