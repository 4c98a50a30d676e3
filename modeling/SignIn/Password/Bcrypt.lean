-- Password hashes in the bcrypt format: `$2b$10$`, twenty-two symbols of
-- salt and thirty-one of digest.
import SignIn.Password.Blowfish
import SignIn.Codec.Base64
import SignIn.Text.Quoted
import SignIn.Text.Decimal
import SignIn.Text.Utf8

namespace SignIn.Password

/-! ## The digest -/

/-- The bytes of a password that count: its UTF-8 bytes and a zero byte, up to 72 of them. -/
def keyBytes (password : String) : List UInt8 := (Text.utf8 password ++ [0]).take 72

/-- The text that is enciphered, as words. -/
def magic : List (UInt32 × UInt32) :=
  [(0x4F727068, 0x65616E42), (0x65686F6C, 0x64657253), (0x63727944, 0x6F756274)]

/-- The four bytes of a word, the most significant first. -/
def wordBytes (w : UInt32) : List UInt8 :=
  [(w >>> 24).toUInt8, (w >>> 16).toUInt8, (w >>> 8).toUInt8, w.toUInt8]

/-- The digest of 23 bytes: the magic text under a cipher that took the key in `2 ^ cost` times. -/
def digest (cost : Nat) (salt key : List UInt8) : List UInt8 :=
  let keyWords := Cipher.keyWords key
  let start := Cipher.initial.expand (Cipher.saltWords salt) keyWords
  let cipher := start.alternate keyWords (Cipher.keyWords salt) (Nat.pow 2 cost)
  let blocks := magic.flatMap fun (l, r) =>
    let (l, r) := cipher.encryptTimes l r 64
    wordBytes l ++ wordBytes r
  blocks.take 23

/-! ## The written form -/

/-- Why a stored hash cannot be compared with. -/
inductive HashFault
  | malformed (text : String)
  | unknownVersion (text : String)
  | malformedCost (text : String)
  | costOutOfRange (cost : Nat)
  | undecodable
  deriving Repr, DecidableEq

def HashFault.message : HashFault → String
  | .malformed text => "Invalid hash: " ++ text
  | .unknownVersion text => "Invalid Prefix: " ++ text
  | .malformedCost text => "Invalid Cost: " ++ text
  | .costOutOfRange cost =>
    "Cost needs to be between 4 and 31, got " ++ Text.Decimal.ofNat cost
  | .undecodable => "Base64 error"

/-- The parts of a stored hash, salt and digest still as symbols. -/
structure StoredHash where
  cost : Nat
  salt : String
  digest : String
  deriving Repr, DecidableEq

/-- The parts between dollar signs, without the empty ones. `part` is the one being read and `done`
those before it, both backwards. -/
def dollarParts (done : List (List Char)) (part : List Char) : List Char → List (List Char)
  | [] => (if part.isEmpty then done else part.reverse :: done).reverse
  | c :: r =>
    if c = '$' then dollarParts (if part.isEmpty then done else part.reverse :: done) [] r
    else dollarParts done (c :: part) r

/-- The versions of the format, which all mean the same digest. -/
def versions : List String := ["2a", "2b", "2x", "2y"]

/-- Splits text after as many characters as make up `size` bytes; no character may lie across. -/
def splitAtByte? (size : Nat) (cs : List Char) : Option (List Char × List Char) :=
  match size, cs with
  | 0, cs => some ([], cs)
  | _ + 1, [] => none
  | size + 1, c :: r =>
    if c.utf8Size ≤ size + 1 then
      (splitAtByte? (size + 1 - c.utf8Size) r).map fun (front, back) => (c :: front, back)
    else none
termination_by cs.length

/-- Takes a stored hash apart. Version, cost and length are looked at in this order. -/
def StoredHash.parse (text : String) : Except HashFault StoredHash :=
  match dollarParts [] [] text.toList with
  | [version, cost, rest] =>
    if String.ofList version ∉ versions then .error (.unknownVersion (String.ofList version))
    else match Text.Decimal.parseNat? Text.Decimal.nat32High (String.ofList cost) with
      | none => .error (.malformedCost (String.ofList cost))
      | some cost =>
        if Text.utf8Size (String.ofList rest) ≠ 53 then .error (.malformed text)
        else match splitAtByte? 22 rest with
          | none => .error (.malformed text)
          | some (salt, digest) => .ok ⟨cost, String.ofList salt, String.ofList digest⟩
  | _ => .error (.malformed text)

/-- The cost of new hashes. -/
def newCost : Nat := 10

/-- The hash of a password under a salt of sixteen bytes, as it is stored. -/
def hash (salt : List UInt8) (password : String) : String :=
  "$2b$" ++ Text.Decimal.padded 2 newCost ++ "$" ++ Codec.Base64.encode Codec.Base64.crypt salt ++
    Codec.Base64.encode Codec.Base64.crypt (digest newCost salt (keyBytes password))

/-- Whether the password is the one that the hash was made from. -/
def verify (password stored : String) : Except HashFault Bool := do
  let parts ← StoredHash.parse stored
  match Codec.Base64.decode? Codec.Base64.crypt parts.salt with
  | none => .error .undecodable
  | some salt =>
    if parts.cost < 4 ∨ 31 < parts.cost then .error (.costOutOfRange parts.cost)
    else match Codec.Base64.decode? Codec.Base64.crypt parts.digest with
      | none => .error .undecodable
      | some expected => .ok (digest parts.cost salt (keyBytes password) == expected)

end SignIn.Password
