-- Percent coding: a percent sign and two hexadecimal digits stand for a byte.
import SignIn.Codec.Hex
import SignIn.Text.Utf8

namespace SignIn.Codec.Percent

/-- The bytes with every code resolved. A percent sign that starts no code stands for itself. -/
def decodeBytes : List UInt8 → List UInt8
  | 0x25 :: a :: b :: r =>
    match Hex.byteValue? a, Hex.byteValue? b with
    | some h, some l => UInt8.ofNat (h * 16 + l) :: decodeBytes r
    | _, _ => 0x25 :: decodeBytes (a :: b :: r)
  | c :: r => c :: decodeBytes r
  | [] => []

/-- The text with every code resolved, if the bytes spell one. -/
def decode? (s : String) : Option String := Text.ofUtf8? (decodeBytes (Text.utf8 s))

end SignIn.Codec.Percent
