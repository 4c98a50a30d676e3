-- Whole numbers in decimal: how they are written, and which texts are read
-- as a number between given bounds.

namespace SignIn.Text.Decimal

/-- The value of a decimal digit. -/
def digit? (c : Char) : Option Nat :=
  if '0' ≤ c && c ≤ '9' then some (c.toNat - '0'.toNat) else none

/-- Reads digits onto `value`; anything but a digit refuses the text. -/
def readDigits (value : Nat) : List Char → Option Nat
  | [] => some value
  | c :: r => (digit? c).bind fun d => readDigits (value * 10 + d) r

/-- The number that a non-empty run of digits names. -/
def ofDigits? : List Char → Option Nat
  | [] => none
  | c :: r => readDigits 0 (c :: r)

/-- The number, if it lies within the bounds. -/
def within (low high : Int) (n : Int) : Option Int :=
  if low ≤ n ∧ n ≤ high then some n else none

/-- Reads a number without a minus sign, up to `high`; a plus sign may stand before it. -/
def parseNat? (high : Nat) (s : String) : Option Nat :=
  let digits := match s.toList with
    | '+' :: r => r
    | cs => cs
  (ofDigits? digits).bind fun n => if n ≤ high then some n else none

/-- Reads a number between the bounds; one plus or minus sign may stand before it. -/
def parseInt? (low high : Int) (s : String) : Option Int :=
  match s.toList with
  | '-' :: r => (ofDigits? r).bind fun n => within low high (-(n : Int))
  | '+' :: r => (ofDigits? r).bind fun n => within low high n
  | cs => (ofDigits? cs).bind fun n => within low high n

/-- The bounds of a number of 64 bits with a sign. -/
def int64Low : Int := -0x8000000000000000
def int64High : Int := 0x7FFFFFFFFFFFFFFF

/-- The bounds of a number of 32 bits with a sign. -/
def int32Low : Int := -0x80000000
def int32High : Int := 0x7FFFFFFF

/-- The greatest number of 64 bits without a sign. -/
def nat64High : Nat := 0xFFFFFFFFFFFFFFFF

/-- The greatest number of 32 bits without a sign. -/
def nat32High : Nat := 0xFFFFFFFF

/-- The decimal digits of a number. -/
def digits (n : Nat) : List Char := Nat.toDigits 10 n

/-- A number in decimal, with a minus sign where it is negative. -/
def ofInt : Int → String
  | .ofNat n => String.ofList (digits n)
  | .negSucc n => String.ofList ('-' :: digits (n + 1))

/-- A number in decimal. -/
def ofNat (n : Nat) : String := String.ofList (digits n)

/-- A number in decimal with zeros before it up to the given width. -/
def padded (width : Nat) (n : Nat) : String :=
  let ds := digits n
  String.ofList (List.replicate (width - ds.length) '0' ++ ds)

end SignIn.Text.Decimal
