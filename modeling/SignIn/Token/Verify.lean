-- Checking a token: three parts, a header that names the one algorithm in
-- use, the very signature text, claims of the right form, the time they
-- hold, and what the token is for. The first check that fails decides.
import SignIn.Token.Claims
import SignIn.Token.Header
import SignIn.Codec.Base64
import SignIn.Digest.Hmac
import SignIn.Error
import SignIn.Text.Quoted

namespace SignIn.Token

open Json (Reader Outcome)

/-- Why a token is refused. -/
inductive Refusal
  | notThreeParts
  | undecodable
  | malformed
  | wrongAlgorithm
  | wrongSignature
  | missing (claim : String)
  | expired
  | immature
  | audience
  | subject (found : String)
  deriving DecidableEq, Repr

def Refusal.message : Refusal → String
  | .notThreeParts => "InvalidToken"
  | .undecodable => "Base64 error"
  | .malformed => "JSON error"
  | .wrongAlgorithm => "InvalidAlgorithm"
  | .wrongSignature => "InvalidSignature"
  | .missing claim => "Missing required claim: " ++ claim
  | .expired => "ExpiredSignature"
  | .immature => "ImmatureSignature"
  | .audience => "InvalidAudience"
  | .subject found => "unexpected subject " ++ Text.quoted found

/-! ## Parts -/

/-- Walks through a text that is given backwards up to a dot: the characters before the dot, still
backwards, and those behind it. `behind` holds the characters already passed. -/
def splitLast (behind : List Char) : List Char → Option (List Char × List Char)
  | [] => none
  | c :: r => if c = '.' then some (r, behind) else splitLast (c :: behind) r

/-- The parts of a token: header, claims and signature. -/
structure Parts where
  header : List Char
  claims : List Char
  signature : List Char
  deriving DecidableEq

/-- The signed text: the header and the claims with a dot between them. -/
def Parts.message (p : Parts) : String := String.ofList (p.header ++ '.' :: p.claims)

/-- The parts of a text, which its last two dots tell apart. A header with dots of its own spells
nothing. -/
def Parts.ofText? (token : String) : Option Parts := do
  let (before, signature) ← splitLast [] token.toList.reverse
  let (before, claims) ← splitLast [] before
  some ⟨before.reverse, claims, signature⟩

/-! ## Signatures -/

/-- The signature text of a message. -/
def signature (secret : List UInt8) (message : String) : String :=
  Codec.Base64.encode Codec.Base64.urlSafe (Digest.hmacSha256 secret (Text.utf8 message))

/-! ## The registered claims -/

/-- The claims that have a meaning of their own, as far as they can be understood. -/
structure Registered where
  expiresAt : Option Nat
  notBefore : Option Nat
  hasAudience : Bool
  /-- Whether the claim has been met, in this order: end, beginning, subject, issuer, audience. -/
  seen : List String

/-- Reads with a reader, and goes on where a failed reading stopped. -/
def attempt {α : Type} (read : Reader α) : Reader (Option α) := fun bytes =>
  match read bytes with
  | .value a rest => .value (some a) rest
  | .fault _ rest => .value none rest

/-- The greatest depth of brackets inside the claims. -/
def depth : Nat := 127

/-- A number of seconds that is not negative. -/
def secondsOf : Option Json → Option Nat
  | some (.number n) => if 0 ≤ n then some n.toNat else none
  | _ => none

/-- Whether a value is a text or a list of texts. -/
def isAudience : Option Json → Bool
  | some j => KeyMembers.isText j || KeyMembers.isTexts j
  | none => false

/-- Reads a registered claim behind its name; a name that is no registered claim is passed over. One
that is met twice refuses the claims. -/
def readRegistered (name : String) (r : Registered) : Reader Registered :=
  if name ∈ ["exp", "nbf", "sub", "iss", "aud"] then
    if name ∈ r.seen then Reader.fail .mismatch
    else do
      Json.readColon
      let value ← attempt (Json.readAny depth)
      let r := { r with seen := name :: r.seen }
      pure (if name = "exp" then { r with expiresAt := secondsOf value }
        else if name = "nbf" then { r with notBefore := secondsOf value }
        else if name = "aud" then { r with hasAudience := isAudience value }
        else r)
  else do
    Json.readColon
    Json.skipValue
    pure r

/-- Reads the registered claims of an object. -/
def registered : Reader Registered :=
  Json.readBy fun b =>
    if b = 0x7B then some (do
      Json.skipByte
      let r ← Json.readMembers readRegistered ⟨none, none, false, []⟩
      Json.endMembers
      pure r)
    else none

/-! ## Verification -/

/-- The claims that a part of the token spells. -/
def claimsOf (part : List Char) : Except Refusal (Claims × Registered) :=
  match Codec.Base64.decode? Codec.Base64.urlSafe (String.ofList part) with
  | none => .error .undecodable
  | some bytes =>
    match Json.readWhole Claims.read bytes, Json.readWhole registered bytes with
    | .ok c, .ok r => .ok (c, r)
    | _, _ => .error .malformed

/-- The algorithm that a part of the token names. -/
def algorithmOf (part : List Char) : Except Refusal Algorithm :=
  match Codec.Base64.decode? Codec.Base64.urlSafe (String.ofList part) with
  | none => .error .undecodable
  | some bytes =>
    match Json.readWhole (Json.readRecord headerRecord) bytes with
    | .ok header => .ok (headerAlgorithm header)
    | .error _ => .error .malformed

/-- What a token says: its claims, the seconds between which it holds, both included, and whether it
is meant for an audience. -/
structure Signed where
  claims : Claims
  expiresAt : Nat
  notBefore : Nat
  hasAudience : Bool

/-- What claims say that state both an end and a beginning. -/
def Signed.ofClaims (claims : Claims) (r : Registered) : Except Refusal Signed := do
  let expiresAt ← orFail (.missing "exp") r.expiresAt
  let notBefore ← orFail (.missing "nbf") r.notBefore
  return ⟨claims, expiresAt, notBefore, r.hasAudience⟩

/-- What a token says that is signed with the secret. -/
def Signed.ofToken (token : String) (secret : List UInt8) : Except Refusal Signed := do
  let parts ← orFail .notThreeParts (Parts.ofText? token)
  let algorithm ← algorithmOf parts.header
  failIf (algorithm ≠ .hs256) .wrongAlgorithm
  failIf (String.ofList parts.signature ≠ signature secret parts.message) .wrongSignature
  let (claims, registered) ← claimsOf parts.claims
  Signed.ofClaims claims registered

/-- The claims of a token that is of the wanted kind, holds at `now`, in seconds, and is meant for
everyone. -/
def Signed.accept (s : Signed) (kind : TokenKind) (now : Int) : Except Refusal Claims := do
  failIf (decide ((s.expiresAt : Int) < now)) .expired
  failIf (decide (now < s.notBefore)) .immature
  failIf s.hasAudience .audience
  failIf (s.claims.subject ≠ kind.subject) (.subject s.claims.subject)
  return s.claims

/-- The claims of a token of the wanted kind that is signed with the secret and holds at `now`, in
seconds. -/
def verify (token : String) (kind : TokenKind) (secret : List UInt8) (now : Int) :
    Except Refusal Claims := do
  (← Signed.ofToken token secret).accept kind now

end SignIn.Token
