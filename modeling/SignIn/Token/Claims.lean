-- What a token says, and the two kinds of token.
import SignIn.Json.Record

namespace SignIn

open Json (Field Codec Values)

/-- What a token is for. -/
inductive TokenKind
  | access
  | refresh
  deriving DecidableEq, Repr

/-- The subject that tokens of the kind name. -/
def TokenKind.subject : TokenKind → String
  | .access => "access"
  | .refresh => "refresh"

/-- What a token says: whose it is, what it permits, what it is for, and when it holds, in whole
seconds. -/
structure Claims where
  userId : Int
  email : String
  permissions : List String
  subject : String
  expiresAt : Int
  issuedAt : Int
  notBefore : Int
  id : String
  deriving DecidableEq

namespace Claims

/-- The fields of the claims. -/
def record : Json.Record :=
  [Field.required "user_id" Codec.int64,
    Field.defaulted "email" Codec.text "",
    Field.defaulted "permissions" Codec.text.list [],
    Field.required "sub" Codec.text,
    Field.required "exp" Codec.int64,
    Field.required "iat" Codec.int64,
    Field.required "nbf" Codec.int64,
    Field.required "jti" Codec.text]

def toValues (c : Claims) : Values record :=
  (c.userId, c.email, c.permissions, c.subject, c.expiresAt, c.issuedAt, c.notBefore, c.id, ())

def ofValues : Values record → Claims
  | (userId, email, permissions, subject, expiresAt, issuedAt, notBefore, id, ()) =>
    { userId, email, permissions, subject, expiresAt, issuedAt, notBefore, id }

/-- The claims as JSON. -/
def json (c : Claims) : Json := Json.write record c.toValues

/-- Reads claims. -/
def read : Json.Reader Claims := do return ofValues (← Json.readRecord record)

end Claims

end SignIn
