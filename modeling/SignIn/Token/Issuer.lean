-- Issuing tokens.
import SignIn.Token.Verify
import SignIn.Settings
import SignIn.Error

namespace SignIn.Token

/-- A token that has just been issued. -/
structure Issued where
  token : String
  id : String
  expiresAt : Time.Instant
  deriving DecidableEq

/-- The token with these claims, signed with the secret. -/
def sign (secret : List UInt8) (claims : Claims) : String :=
  let part (j : Json) := Codec.Base64.encode Codec.Base64.urlSafe (Text.utf8 j.text)
  let message := part newHeader ++ "." ++ part claims.json
  message ++ "." ++ signature secret message

/-- What tells the kinds of token apart when they are issued: the secret and the lifetime. -/
def secretOf (s : Settings) : TokenKind → List UInt8
  | .access => Text.utf8 s.accessSecret
  | .refresh => Text.utf8 s.refreshSecret

def lifetimeOf (s : Settings) : TokenKind → Time.Duration
  | .access => s.accessLifetime
  | .refresh => s.refreshLifetime

/-- The instant at which a token of the kind ends that is issued at `now`. It must be one that can
be held. -/
def expiry (s : Settings) (kind : TokenKind) (now : Time.Instant) : Except AuthError Time.Instant :=
  match now.add? (lifetimeOf s kind) with
  | some t => .ok t
  | none => .error (.tokenCreation "token lifetime out of range")

/-- A new token, given when it ends and its id. -/
def issueUntil (s : Settings) (kind : TokenKind) (userId : Int) (email : String)
    (permissions : List String) (now expiresAt : Time.Instant) (id : String) : Issued :=
  let claims : Claims :=
    { userId, email, permissions, subject := kind.subject, expiresAt := expiresAt.unixSeconds
      issuedAt := now.unixSeconds, notBefore := now.unixSeconds, id }
  ⟨sign (secretOf s kind) claims, id, expiresAt⟩

end SignIn.Token
