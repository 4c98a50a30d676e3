-- What can go wrong: in the store, in the cache, and in the operations on
-- sessions. Each cause has its wording in one place.

namespace SignIn

/-! ## Failing -/

/-- Fails where the condition holds. -/
def failIf {ε : Type} {m : Type → Type} [Monad m] [MonadExcept ε m] (c : Bool) (e : ε) : m Unit :=
  if c then throw e else pure ()

/-- The value, or the failure where there is none. -/
def orFail {ε : Type} {m : Type → Type} {α : Type} [Monad m] [MonadExcept ε m] (e : ε) :
    Option α → m α
  | some a => pure a
  | none => throw e

/-! ## Causes -/

/-- Why the credential store did not answer. A missing row is no error. -/
inductive StoreError
  | cancelled
  | conflict (text : String)
  | database (text : String)
  deriving DecidableEq, Repr

def StoreError.message : StoreError → String
  | .cancelled => "Operation cancelled"
  | .conflict text => "Conflict: " ++ text
  | .database text => "Database error: " ++ text

/-- Why the cache did not answer. A missing key is no error. -/
inductive CacheError
  | cancelled
  | client (text : String)
  deriving DecidableEq, Repr

def CacheError.message : CacheError → String
  | .cancelled => "Operation cancelled"
  | .client text => "Redis error: " ++ text

/-- Why an operation on accounts or sessions failed. -/
inductive AuthError
  | validation (text : String)
  | parse (text : String)
  | invalidToken (text : String)
  | tokenOwnership
  | refreshTokenNotFound
  | refreshTokenRevoked
  | refreshTokenExpired
  | refreshTokenInvalid
  | userNotFound
  | invalidCredentials
  | codeInvalidOrExpired
  | codeMismatch
  | tokenCreation (text : String)
  | repository (e : StoreError)
  | cache (e : CacheError)
  | delivery (text : String)
  | internal (text : String)
  deriving DecidableEq, Repr

namespace AuthError

def message : AuthError → String
  | .validation text => "Validation error: " ++ text
  | .parse text => "Parse error: " ++ text
  | .invalidToken text => "Invalid token: " ++ text
  | .tokenOwnership => "Token does not belong to the requesting user"
  | .refreshTokenNotFound => "Refresh token not found"
  | .refreshTokenRevoked => "Refresh token revoked"
  | .refreshTokenExpired => "Refresh token expired"
  | .refreshTokenInvalid => "Refresh token invalid"
  | .userNotFound => "User not found"
  | .invalidCredentials => "Invalid credentials"
  | .codeInvalidOrExpired => "OTP invalid or expired"
  | .codeMismatch => "OTP mismatch"
  | .tokenCreation text => "Token creation failed: " ++ text
  | .repository e => "Repository error: " ++ e.message
  | .cache e => "Cache error: " ++ e.message
  | .delivery text => "OTP delivery failed: " ++ text
  | .internal text => "Internal error: " ++ text

/-- The name of the cause. -/
def kind : AuthError → String
  | .validation _ => "validation"
  | .parse _ => "parse"
  | .invalidToken _ => "invalid_token"
  | .tokenOwnership => "token_ownership"
  | .refreshTokenNotFound => "refresh_token_not_found"
  | .refreshTokenRevoked => "refresh_token_revoked"
  | .refreshTokenExpired => "refresh_token_expired"
  | .refreshTokenInvalid => "refresh_token_invalid"
  | .userNotFound => "user_not_found"
  | .invalidCredentials => "invalid_credentials"
  | .codeInvalidOrExpired => "otp_invalid_or_expired"
  | .codeMismatch => "otp_mismatch"
  | .tokenCreation _ => "token_creation"
  | .repository _ => "repository"
  | .cache _ => "cache"
  | .delivery _ => "otp_delivery"
  | .internal _ => "internal"

/-- Whether the cause is that the caller gave up. -/
def isCancelled : AuthError → Bool
  | .repository .cancelled => true
  | .cache .cancelled => true
  | _ => false

end AuthError

end SignIn
