-- Base64 without padding, over an alphabet of choice. Every byte sequence
-- has one written form: the bits left over in the last symbol must be zero.

namespace SignIn.Codec.Base64

/-- The alphabet: sixty-four symbols, in the order of their values. -/
structure Alphabet where
  symbols : List Char
  size : symbols.length = 64 := by decide
  distinct : symbols.Nodup := by decide

/-- The symbol of a value. -/
def Alphabet.symbol (a : Alphabet) (n : Nat) : Char := a.symbols.getD n 'A'

/-- The value of a symbol. -/
def Alphabet.value? (a : Alphabet) (c : Char) : Option Nat := a.symbols.findIdx? (· == c)

/-- The alphabet that is safe in a URL. -/
def urlSafe : Alphabet where
  symbols := ['A', 'B', 'C', 'D', 'E', 'F', 'G', 'H', 'I', 'J', 'K', 'L', 'M', 'N', 'O', 'P', 'Q',
    'R', 'S', 'T', 'U', 'V', 'W', 'X', 'Y', 'Z', 'a', 'b', 'c', 'd', 'e', 'f', 'g', 'h', 'i', 'j',
    'k', 'l', 'm', 'n', 'o', 'p', 'q', 'r', 's', 't', 'u', 'v', 'w', 'x', 'y', 'z', '0', '1', '2',
    '3', '4', '5', '6', '7', '8', '9', '-', '_']

/-- The alphabet of stored password hashes. -/
def crypt : Alphabet where
  symbols := ['.', '/', 'A', 'B', 'C', 'D', 'E', 'F', 'G', 'H', 'I', 'J', 'K', 'L', 'M', 'N', 'O',
    'P', 'Q', 'R', 'S', 'T', 'U', 'V', 'W', 'X', 'Y', 'Z', 'a', 'b', 'c', 'd', 'e', 'f', 'g', 'h',
    'i', 'j', 'k', 'l', 'm', 'n', 'o', 'p', 'q', 'r', 's', 't', 'u', 'v', 'w', 'x', 'y', 'z', '0',
    '1', '2', '3', '4', '5', '6', '7', '8', '9']

/-! ## Bytes and values of six bits -/

/-- The values of six bits that the bytes split into; zero bits fill up the last one. -/
def sextets : List UInt8 → List Nat
  | a :: b :: c :: r =>
    a.toNat / 4 :: (a.toNat % 4 * 16 + b.toNat / 16) :: (b.toNat % 16 * 4 + c.toNat / 64) ::
      c.toNat % 64 :: sextets r
  | [a, b] => [a.toNat / 4, a.toNat % 4 * 16 + b.toNat / 16, b.toNat % 16 * 4]
  | [a] => [a.toNat / 4, a.toNat % 4 * 16]
  | [] => []

/-- The same onto values already split off, which `done` holds backwards. -/
def sextetsOnto (done : List Nat) : List UInt8 → List Nat
  | a :: b :: c :: r =>
    sextetsOnto (c.toNat % 64 :: (b.toNat % 16 * 4 + c.toNat / 64) ::
      (a.toNat % 4 * 16 + b.toNat / 16) :: a.toNat / 4 :: done) r
  | r => done.reverse ++ sextets r

/-- The bytes that the values spell, onto those already spelled. A single value over, or bits over
that are not zero, spell nothing. -/
def bytesOnto (done : List UInt8) : List Nat → Option (List UInt8)
  | a :: b :: c :: d :: r =>
    bytesOnto (UInt8.ofNat (c % 4 * 64 + d) :: UInt8.ofNat (b % 16 * 16 + c / 4) ::
      UInt8.ofNat (a * 4 + b / 16) :: done) r
  | [a, b, c] =>
    if c % 4 = 0 then
      some (done.reverse ++ [UInt8.ofNat (a * 4 + b / 16), UInt8.ofNat (b % 16 * 16 + c / 4)])
    else none
  | [a, b] =>
    if b % 16 = 0 then some (done.reverse ++ [UInt8.ofNat (a * 4 + b / 16)]) else none
  | [_] => none
  | [] => some done.reverse

/-- The values of the symbols, onto those already read, if every character is a symbol. -/
def valuesOnto (a : Alphabet) (done : List Nat) : List Char → Option (List Nat)
  | [] => some done.reverse
  | c :: r =>
    match a.value? c with
    | some v => valuesOnto a (v :: done) r
    | none => none

/-! ## The code -/

/-- The bytes as symbols. -/
def encode (a : Alphabet) (bytes : List UInt8) : String :=
  String.ofList ((sextetsOnto [] bytes).map a.symbol)

/-- The bytes that the text spells, if it is one of the forms that `encode` writes. -/
def decode? (a : Alphabet) (s : String) : Option (List UInt8) :=
  (valuesOnto a [] s.toList).bind (bytesOnto [])

theorem sextetsOnto_eq (done : List Nat) (bytes : List UInt8) :
    sextetsOnto done bytes = done.reverse ++ sextets bytes := by
  fun_induction sextetsOnto done bytes with
  | case1 done a b c r ih => simp [ih, sextets]
  | case2 => rfl

end SignIn.Codec.Base64
