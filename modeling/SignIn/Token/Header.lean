-- The header of a token: the algorithm it is signed with, and what else a
-- header may hold, of which only the form counts.
import SignIn.Json.Record

namespace SignIn

open Json (Field Codec Values Reader)

/-- The signature algorithms that a header can name. -/
inductive Algorithm
  | hs256 | hs384 | hs512
  | es256 | es384
  | rs256 | rs384 | rs512
  | ps256 | ps384 | ps512
  | edDSA
  deriving DecidableEq, Repr

namespace Algorithm

/-- The names of the algorithms. -/
def names : List (String × Algorithm) :=
  [("HS256", hs256), ("HS384", hs384), ("HS512", hs512), ("ES256", es256), ("ES384", es384),
    ("RS256", rs256), ("RS384", rs384), ("RS512", rs512), ("PS256", ps256), ("PS384", ps384),
    ("PS512", ps512), ("EdDSA", edDSA)]

/-- The algorithm with a name. -/
def ofName? (name : String) : Option Algorithm := names.lookup name

/-- The name of an algorithm. -/
def name (a : Algorithm) : String := ((names.find? (·.2 == a)).map (·.1)).getD ""

/-- The algorithm with a name that has been read. -/
def named (name : String) : Reader Algorithm :=
  match ofName? name with
  | some a => pure a
  | none => Reader.fail .mismatch

/-- Reads an algorithm: its name, or an object whose one member has that name and is null. -/
def read : Reader Algorithm := do
  match ← Json.peek with
  | none => Reader.fail .truncated
  | some b =>
    if b = 0x22 then do
      Json.skipByte
      named (← Json.readStringBody)
    else if b = 0x7B then do
      Json.skipByte
      let a ← named (← Json.readText)
      Json.readColon
      let value ← Json.readNullable (Reader.fail .mismatch : Reader Empty)
      match value with
      | none => do Json.endMembers; pure a
      | some impossible => nomatch impossible
    else Reader.fail .malformed

def codec : Codec Algorithm := ⟨fun a => .string a.name, read⟩

end Algorithm

/-! ## Keys -/

/-- The members of an object that describes a key. -/
abbrev KeyMembers := List (String × Json)

namespace KeyMembers

/-- The values of all members with a name. -/
def values (members : KeyMembers) (name : String) : List Json :=
  (members.filter (·.1 == name)).map (·.2)

/-- Whether there is exactly one member with the name, and its value is one that `ok` accepts. -/
def has (members : KeyMembers) (name : String) (ok : Json → Bool) : Bool :=
  match members.values name with
  | [j] => ok j
  | _ => false

/-- Whether a member is missing, null or has a value that `ok` accepts. -/
def mayHave (members : KeyMembers) (name : String) (ok : Json → Bool) : Bool :=
  match members.values name with
  | [] => true
  | [.null] => true
  | [j] => ok j
  | _ => false

def isText : Json → Bool
  | .string _ => true
  | _ => false

def isTexts : Json → Bool
  | .array items => items.all isText
  | _ => false

def isNull : Json → Bool
  | .null => true
  | _ => false

def isNullOrEmpty : Json → Bool
  | .null => true
  | .object [] => true
  | _ => false

/-- Whether a value chooses one of the names: as a text, or as an object whose one member has that
name and a value without meaning, which `isBare` accepts. -/
def chooses (names : List String) (isBare : Json → Bool) : Json → Bool
  | .string s => names.contains s
  | .object [(name, j)] => names.contains name && isBare j
  | _ => false

/-- The algorithms that a key may be meant for. -/
def keyAlgorithms : List String :=
  ["HS256", "HS384", "HS512", "ES256", "ES384", "RS256", "RS384", "RS512", "PS256", "PS384",
    "PS512", "EdDSA", "RSA1_5", "RSA-OAEP", "RSA-OAEP-256"]

/-- The curves that a key may lie on. -/
def curves : List String := ["P-256", "P-384", "P-521", "Ed25519"]

/-- Whether the members describe a key of one of the four types. -/
def isValid (members : KeyMembers) : Bool :=
  let common := members.mayHave "use" isText && members.mayHave "key_ops" isTexts &&
    members.mayHave "alg" (chooses keyAlgorithms isNullOrEmpty) && members.mayHave "kid" isText &&
    members.mayHave "x5u" isText && members.mayHave "x5c" isTexts &&
    members.mayHave "x5t" isText && members.mayHave "x5t#S256" isText
  let isOfType (name : String) : Bool := members.has "kty" (chooses [name] isNull)
  let hasCurve := members.has "crv" (chooses curves isNull)
  let elliptic := isOfType "EC" && hasCurve && members.has "x" isText && members.has "y" isText
  let rsa := isOfType "RSA" && members.has "n" isText && members.has "e" isText
  let octets := isOfType "oct" && members.has "k" isText
  let pair := isOfType "OKP" && hasCurve && members.has "x" isText
  common && (elliptic || rsa || octets || pair)

/-- Reads the description of a key inside an object. -/
def read : Reader KeyMembers := do
  match ← Json.peek with
  | some 0x7B => do
    match ← Json.readAny 127 with
    | .object members => if isValid members then pure members else Reader.fail .mismatch
    | _ => Reader.fail .mismatch
  | _ => Reader.fail .mismatch

def codec : Codec KeyMembers := ⟨.object, read⟩

end KeyMembers

/-! ## Headers -/

/-- The fields of a header. -/
def headerRecord : Json.Record :=
  [Field.nullable "typ" Codec.text,
    Field.required "alg" Algorithm.codec,
    Field.nullable "cty" Codec.text,
    Field.nullable "jku" Codec.text,
    Field.nullable "jwk" KeyMembers.codec,
    Field.nullable "kid" Codec.text,
    Field.nullable "x5u" Codec.text,
    Field.nullable "x5c" Codec.text.list,
    Field.nullable "x5t" Codec.text,
    Field.nullable "x5t#S256" Codec.text]

/-- The algorithm among the values of a header. -/
def headerAlgorithm : Values headerRecord → Algorithm
  | (_, alg, _) => alg

/-- The header that new tokens carry. -/
def newHeader : Json := .object [("typ", .string "JWT"), ("alg", .string "HS256")]

end SignIn
