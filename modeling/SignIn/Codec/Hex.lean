-- Bytes in hexadecimal, two lower-case digits each.

namespace SignIn.Codec.Hex

/-- The digit of a value below sixteen. -/
def digit (n : Nat) : Char := Nat.digitChar (n % 16)

/-- The two digits of a byte. -/
def ofByte (b : UInt8) : List Char := [digit (b.toNat / 16), digit b.toNat]

/-- The digits of all bytes. -/
def encode (bytes : List UInt8) : String := String.ofList ((bytes.map ofByte).flatten)

/-- The value of a digit of either case. -/
def value? (c : Char) : Option Nat :=
  if '0' ≤ c && c ≤ '9' then some (c.toNat - '0'.toNat)
  else if 'a' ≤ c && c ≤ 'f' then some (c.toNat - 'a'.toNat + 10)
  else if 'A' ≤ c && c ≤ 'F' then some (c.toNat - 'A'.toNat + 10)
  else none

/-- The value of a byte that is an ASCII digit of either case. -/
def byteValue? (b : UInt8) : Option Nat := value? (Char.ofNat b.toNat)

end SignIn.Codec.Hex
