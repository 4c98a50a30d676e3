-- Minting tokens, and the liveness marker: the cache entry of a user that
-- names the id of the access token minted last. Only that one is alive.
import SignIn.Program
import SignIn.Token.Issuer

namespace SignIn.Session

open Operation

/-! ## Failures while minting -/

/-- What a failure to store a new refresh token means. -/
def storeFailed : StoreError → AuthError
  | .cancelled => .repository .cancelled
  | e => .tokenCreation ("persist refresh token: " ++ e.message)

/-- What a failure to write the liveness marker means. -/
def markFailed : CacheError → AuthError
  | .cancelled => .cache .cancelled
  | e => .tokenCreation ("write liveness marker: " ++ e.message)

/-! ## Minting -/

/-- Issues a token of a kind. -/
def issue (s : Settings) (kind : TokenKind) (userId : Int) (email : String)
    (permissions : List String) (now : Time.Instant) : Operation Token.Issued := do
  let expiresAt ← ofExcept (Token.expiry s kind now)
  let id ← ask .freshId
  return Token.issueUntil s kind userId email permissions now expiresAt id

/-- Issues an access token. -/
def issueAccess (s : Settings) (userId : Int) (email : String) (permissions : List String)
    (now : Time.Instant) : Operation Token.Issued :=
  issue s .access userId email permissions now

/-- Issues a refresh token, which carries neither email nor permissions. -/
def issueRefresh (s : Settings) (userId : Int) (now : Time.Instant) : Operation Token.Issued :=
  issue s .refresh userId "" [] now

/-- The permissions of a role; without a role there are none. -/
def permissionsFor (role : Option Int) : Operation (List String) :=
  match role with
  | some role => store (.permissionsOf role)
  | none => pure []

/-- Makes an access token the user's live one until it ends. -/
def markLive (s : Settings) (userId : Int) (issued : Token.Issued) (now : Time.Instant) :
    Operation Unit := do
  let remaining ← orFail (.tokenCreation "access token already expired")
    (now.until? issued.expiresAt)
  cacheOr markFailed (.set (s.accessKey userId) issued.id remaining)

/-- Mints both tokens for a user. The refresh token is stored before the marker is written. -/
def createPair (s : Settings) (userId : Int) (email : String) (now : Time.Instant) :
    Operation TokenPair := do
  let user ← orFail .userNotFound (← store (.findUser userId))
  let permissions ← permissionsFor user.role
  let access ← issueAccess s userId email permissions now
  let refresh ← issueRefresh s userId now
  storeOr storeFailed (.createToken userId refresh.token refresh.expiresAt)
  markLive s userId access now
  return ⟨access.token, refresh.token⟩

/-! ## Checking -/

/-- What a refused token means. -/
def refused (r : Token.Refusal) : AuthError := .invalidToken r.message

/-- The claims of a token of a kind that holds now. The time is asked for only if the token is
signed with the secret. -/
def verify (s : Settings) (kind : TokenKind) (token : String) : Operation Claims := do
  let signed ← ofExcept ((Token.Signed.ofToken token (Token.secretOf s kind)).mapError refused)
  let now ← clock
  ofExcept ((signed.accept kind now.unixSeconds).mapError refused)

/-- Whether the user's liveness marker has time left and names the id. -/
def isAlive (s : Settings) (userId : Int) (id : String) : Operation Bool := do
  let key := s.accessKey userId
  match ← cache (.timeLeft key) with
  | none => return false
  | some left =>
    if left.nanos = 0 then return false
    else
      let marker : Option String ← cache (.get key)
      return marker == some id

end SignIn.Session
