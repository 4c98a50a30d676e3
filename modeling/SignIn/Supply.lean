-- Endless supplies of fresh things: token ids, one-time codes, salts and
-- secrets, all drawn from random bytes.
import SignIn.Digest.Sha2
import SignIn.Text.Decimal

namespace SignIn

/-- An endless supply, of which the first `used` items are gone. -/
structure Supply (α : Type) where
  item : Nat → α
  used : Nat

/-- Draws the next item. -/
def Supply.next {α : Type} (s : Supply α) : α × Supply α :=
  (s.item s.used, { s with used := s.used + 1 })

/-- The supply of which nothing is gone yet. -/
def Supply.ofItems {α : Type} (item : Nat → α) : Supply α := ⟨item, 0⟩

/-! ## Ids -/

/-- An id of the random kind from sixteen bytes: in hexadecimal, in groups of eight, four, four,
four and twelve digits, with the version and the variant in their places. -/
def idOfBytes (bytes : List UInt8) : String :=
  let marked := bytes.zipIdx.map fun (b, i) =>
    if i = 6 then (b &&& 0x0F) ||| 0x40 else if i = 8 then (b &&& 0x3F) ||| 0x80 else b
  let part (start count : Nat) := Codec.Hex.encode ((marked.drop start).take count)
  part 0 4 ++ "-" ++ part 4 2 ++ "-" ++ part 6 2 ++ "-" ++ part 8 2 ++ "-" ++ part 10 6

/-- Whether a character is a hexadecimal digit in lower case. -/
def isIdDigit (c : Char) : Bool := ('0' ≤ c && c ≤ '9') || ('a' ≤ c && c ≤ 'f')

/-- Whether a text has the form of an id of the random kind. -/
def isId (s : String) : Bool :=
  s.length == 36 && s.toList.zipIdx.all fun (c, i) =>
    if i = 8 ∨ i = 13 ∨ i = 18 ∨ i = 23 then c == '-'
    else if i = 14 then c == '4'
    else if i = 19 then c == '8' || c == '9' || c == 'a' || c == 'b'
    else isIdDigit c

/-! ## Codes and secrets -/

/-- The number of digits of a one-time code. -/
def codeDigits : Nat := 4

/-- A one-time code from one byte a digit. -/
def codeOfBytes (bytes : List UInt8) : String :=
  String.ofList ((bytes.take codeDigits).map fun b => Nat.digitChar (b.toNat % 10))

/-- Letters and digits. -/
def alphanumerics : List Char :=
  "ABCDEFGHIJKLMNOPQRSTUVWXYZabcdefghijklmnopqrstuvwxyz0123456789".toList

/-- A secret of letters and digits, from one byte each. -/
def secretOfBytes (bytes : List UInt8) : String :=
  String.ofList (bytes.map fun b => alphanumerics.getD (b.toNat % 62) 'A')

/-! ## Random bytes -/

/-- The `n`-th block of 32 bytes that follows from a seed. -/
def randomBlock (seed : List UInt8) (n : Nat) : List UInt8 :=
  Digest.sha256 (seed ++ Digest.Variant.toBytes 8 n)

end SignIn
