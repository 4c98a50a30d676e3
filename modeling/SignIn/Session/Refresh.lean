-- Using a refresh token: for a new pair, or to sign out.
import SignIn.Session.Tokens
import SignIn.Text.Blank

namespace SignIn.Session

open Operation

/-- Exchanges a refresh token for a new pair and revokes it. -/
def refresh (s : Settings) (token : String) : Operation TokenPair := do
  let claims ← verify s .refresh token
  let now ← clock
  let record ← orFail .refreshTokenNotFound (← store (.findToken token))
  failIf record.isRevoked .refreshTokenRevoked
  failIf (record.isExpired now) .refreshTokenExpired
  let user ← orFail .userNotFound (← store (.findUser claims.userId))
  let next ← issueRefresh s user.id now
  let rotated ← store (.rotateToken claims.userId token next.token next.expiresAt)
  failIf (!rotated) .refreshTokenInvalid
  let permissions ← permissionsFor user.role
  let access ← issueAccess s user.id user.email permissions now
  markLive s user.id access now
  return ⟨access.token, next.token⟩

/-- Revokes a user's own refresh token and removes the liveness marker. That the token is unknown or
revoked already is no failure. -/
def logout (s : Settings) (userId : Int) (refreshToken : String) : Operation Unit := do
  let token := Text.trim refreshToken
  failIf token.isEmpty (.validation "refresh token is required")
  let claims ← verify s .refresh token
  failIf (claims.userId != userId) .tokenOwnership
  let _ ← store (.revokeToken token)
  let _ ← cache (.delete (s.accessKey userId))

end SignIn.Session
