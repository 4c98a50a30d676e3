-- Scanning JSON from bytes: what a reader yields, blanks, words, strings and
-- numbers, and passing over a value that nobody wants. The first fault met
-- from left to right decides.
import SignIn.Json.Value
import SignIn.Codec.Hex
import SignIn.Float64
import SignIn.Text.Utf8

namespace SignIn.Json

/-- Text as it arrives. -/
abbrev Bytes := List UInt8

/-- Why a text cannot be read as wanted. -/
inductive Fault
  /-- It is no JSON. -/
  | malformed
  /-- It is JSON, but not of the wanted form. -/
  | mismatch
  /-- It ends too early. -/
  | truncated
  deriving DecidableEq, Repr

/-- What reading yields. A fault, too, leaves a rest of the text. -/
inductive Outcome (α : Type)
  | value (a : α) (rest : Bytes)
  | fault (f : Fault) (rest : Bytes)

/-- Reads from the front of a text. -/
def Reader (α : Type) := Bytes → Outcome α

namespace Reader

instance : Monad Reader where
  pure a := fun bytes => .value a bytes
  bind m f := fun bytes =>
    match m bytes with
    | .value a rest => f a rest
    | .fault e rest => .fault e rest

/-- Refuses the text. -/
def fail {α : Type} (f : Fault) : Reader α := fun bytes => .fault f bytes

/-- Reads with a reader. Of the rest that a fault leaves, `skip` passes over the front. -/
def afterFault {α : Type} (skip : Bytes → Bytes) (read : Reader α) : Reader α := fun bytes =>
  match read bytes with
  | .value a rest => .value a rest
  | .fault f rest => .fault f (skip rest)

end Reader

/-! ## Blanks and words -/

/-- A blank, a tabulator or the end of a line. -/
def isSpace (b : UInt8) : Bool := b == 0x20 || b == 0x0A || b == 0x0D || b == 0x09

/-- The text behind its leading blanks. -/
def skipSpace (bytes : Bytes) : Bytes := bytes.dropWhile isSpace

/-- The next byte that is no blank, which stays in the text. -/
def peek : Reader (Option UInt8) := fun bytes =>
  let rest := skipSpace bytes
  .value rest.head? rest

/-- Takes one byte. -/
def skipByte : Reader Unit := fun bytes => .value () bytes.tail

/-- Takes exactly these bytes. -/
def expect : List UInt8 → Reader Unit
  | [] => fun bytes => .value () bytes
  | b :: word => fun bytes =>
    match bytes with
    | [] => .fault .truncated []
    | c :: rest => if c = b then expect word rest else .fault .malformed rest

/-- The bytes behind the first one in `null`, `true` and `false`. -/
def ull : List UInt8 := [0x75, 0x6C, 0x6C]
def rue : List UInt8 := [0x72, 0x75, 0x65]
def alse : List UInt8 := [0x61, 0x6C, 0x73, 0x65]

/-! ## Strings -/

/-- The number that four hexadecimal digits name. -/
def readHex : Reader Nat
  | a :: b :: c :: d :: rest =>
    match Codec.Hex.byteValue? a, Codec.Hex.byteValue? b, Codec.Hex.byteValue? c,
      Codec.Hex.byteValue? d with
    | some w, some x, some y, some z => .value (w * 4096 + x * 256 + y * 16 + z) rest
    | _, _, _, _ => .fault .malformed rest
  | _ => .fault .truncated []

/-- The byte that an escape of one letter stands for. -/
def escapedByte? (b : UInt8) : Option UInt8 :=
  if b = 0x22 ∨ b = 0x5C ∨ b = 0x2F then some b
  else if b = 0x62 then some 0x08
  else if b = 0x66 then some 0x0C
  else if b = 0x6E then some 0x0A
  else if b = 0x72 then some 0x0D
  else if b = 0x74 then some 0x09
  else none

/-- Reads the second half of a pair whose first half is `high`. -/
def readLowHalf (high : Nat) : Reader (List UInt8)
  | [] => .fault .truncated []
  | 0x5C :: [] => .fault .truncated []
  | 0x5C :: 0x75 :: rest =>
    match readHex rest with
    | .fault f rest => .fault f rest
    | .value low rest =>
      if low < 0xDC00 ∨ 0xDFFF < low then .fault .malformed rest
      else
        .value (String.utf8EncodeChar
          (Char.ofNat (0x10000 + (high - 0xD800) * 0x400 + (low - 0xDC00)))) rest
  | 0x5C :: _ :: rest => .fault .malformed rest
  | _ :: rest => .fault .malformed rest

/-- Reads the code point of an escape, or of a pair of them. -/
def readCodePoint : Reader (List UInt8) := fun bytes =>
  match readHex bytes with
  | .fault f rest => .fault f rest
  | .value n rest =>
    if 0xDC00 ≤ n ∧ n ≤ 0xDFFF then .fault .malformed rest
    else if n < 0xD800 ∨ 0xDBFF < n then .value (String.utf8EncodeChar (Char.ofNat n)) rest
    else readLowHalf n rest

/-- Reads an escape behind its backslash. -/
def readEscape : Reader (List UInt8)
  | [] => .fault .truncated []
  | b :: rest =>
    match escapedByte? b with
    | some c => .value [c] rest
    | none => if b = 0x75 then readCodePoint rest else .fault .malformed rest

/-- Passes over an escape behind its backslash. -/
def skipEscape : Reader Unit
  | [] => .fault .truncated []
  | b :: rest =>
    if (escapedByte? b).isSome then .value () rest
    else if b = 0x75 then
      match readHex rest with
      | .value _ rest => .value () rest
      | .fault f rest => .fault f rest
    else .fault .malformed rest

/-- Reads a string behind its opening quote, up to and with the closing one. `done` holds the bytes
read so far, backwards; there is a step for each byte of `budget`, which is longer than the text. -/
def readBytesFrom (done : List UInt8) : (budget : Bytes) → Reader (List UInt8)
  | [], bytes => .fault .truncated bytes
  | _ :: _, [] => .fault .truncated []
  | _ :: budget, b :: rest =>
    if b = 0x22 then .value done.reverse rest
    else if b = 0x5C then
      match readEscape rest with
      | .value bs rest => readBytesFrom (bs.reverse ++ done) budget rest
      | .fault f rest => .fault f rest
    else if b < 0x20 then .fault .malformed rest
    else readBytesFrom (b :: done) budget rest

/-- Reads a string behind its opening quote. Its bytes must be UTF-8. -/
def readStringBody : Reader String := fun bytes =>
  match readBytesFrom [] (0 :: bytes) bytes with
  | .fault f rest => .fault f rest
  | .value bs rest =>
    match Text.ofUtf8? bs with
    | some s => .value s rest
    | none => .fault .malformed rest

/-- Passes over a string behind its opening quote. Its code points are not looked at. -/
def skipStringFrom : (budget : Bytes) → Reader Unit
  | [], bytes => .fault .truncated bytes
  | _ :: _, [] => .fault .truncated []
  | _ :: budget, b :: rest =>
    if b = 0x22 then .value () rest
    else if b = 0x5C then
      match skipEscape rest with
      | .value _ rest => skipStringFrom budget rest
      | .fault f rest => .fault f rest
    else if b < 0x20 then .fault .malformed rest
    else skipStringFrom budget rest

def skipString : Reader Unit := fun bytes => skipStringFrom (0 :: bytes) bytes

/-! ## Numbers -/

/-- Whether the byte is a digit. -/
def isDigit (b : UInt8) : Bool := 0x30 ≤ b && b ≤ 0x39

/-- The value of a digit. -/
def digitValue (b : UInt8) : Nat := b.toNat - 0x30

/-- A number as far as its readers tell numbers apart. -/
inductive Number
  | whole (n : Int)
  | decimal
  deriving DecidableEq, Repr

/-- The greatest whole number of 64 bits. -/
def maxWhole : Nat := 0xFFFFFFFFFFFFFFFF

/-- Reads digits onto `n` as long as the number stays within 64 bits. Answers how many they were. -/
def digitsOnto (n count : Nat) : Bytes → (Nat × Nat) × Bytes
  | [] => ((n, count), [])
  | b :: rest =>
    if isDigit b && n * 10 + digitValue b ≤ maxWhole then
      digitsOnto (n * 10 + digitValue b) (count + 1) rest
    else ((n, count), b :: rest)

/-- Whether `significand * 10 ^ exponent` is too great for a binary number of 64 bits. -/
def isTooGreat (significand : Nat) (exponent : Int) : Bool :=
  if significand = 0 ∨ exponent < 0 then false
  else if 308 < exponent then true
  else Float64.tooGreat ≤ Float64.nearest significand * Float64.nearest (Nat.pow 10 exponent.toNat)

/-- A decimal number, unless it is too great. -/
def decimalOf (significand : Nat) (exponent : Int) : Reader Number := fun bytes =>
  if isTooGreat significand exponent then .fault .malformed bytes else .value .decimal bytes

/-- The greatest exponent that is read as written. -/
def maxExponent : Nat := 0x7FFFFFFF

/-- Reads the digits of an exponent onto `n`. With an exponent that is too great the number is zero
if it has to be, and too great itself otherwise. -/
def readExponentDigits (significand : Nat) (start : Int) (negative : Bool) (n : Nat) :
    Reader Number
  | [] => decimalOf significand (if negative then start - n else start + n) []
  | b :: rest =>
    if isDigit b then
      if maxExponent < n * 10 + digitValue b then
        if significand ≠ 0 ∧ !negative then .fault .malformed rest
        else .value .decimal (rest.dropWhile isDigit)
      else readExponentDigits significand start negative (n * 10 + digitValue b) rest
    else decimalOf significand (if negative then start - n else start + n) (b :: rest)

/-- Reads an exponent behind its letter. -/
def readExponent (significand : Nat) (start : Int) : Reader Number := fun bytes =>
  let (negative, digits) := match bytes with
    | 0x2B :: rest => (false, rest)
    | 0x2D :: rest => (true, rest)
    | bytes => (false, bytes)
  match digits with
  | [] => .fault .truncated []
  | b :: rest =>
    if isDigit b then readExponentDigits significand start negative (digitValue b) rest
    else .fault .malformed rest

/-- Reads what may follow a decimal: an exponent or nothing. -/
def readAfterDecimal (significand : Nat) (exponent : Int) : Reader Number
  | 0x65 :: rest => readExponent significand exponent rest
  | 0x45 :: rest => readExponent significand exponent rest
  | bytes => decimalOf significand exponent bytes

/-- Reads decimal places behind the point. Digits beyond 64 bits do not count. -/
def readPlaces (significand : Nat) (before : Int) : Reader Number := fun bytes =>
  let ((n, count), rest) := digitsOnto significand 0 bytes
  match rest with
  | b :: _ =>
    if isDigit b then readAfterDecimal n (before - count) (rest.dropWhile isDigit)
    else if count = 0 then .fault .malformed rest
    else readAfterDecimal n (before - count) rest
  | [] => if count = 0 then .fault .truncated [] else readAfterDecimal n (before - count) []

/-- Reads what may follow the whole part of a number. -/
def readAfterWhole (positive : Bool) (n : Nat) : Reader Number
  | 0x2E :: rest => readPlaces n 0 rest
  | 0x65 :: rest => readExponent n 0 rest
  | 0x45 :: rest => readExponent n 0 rest
  | bytes =>
    if positive then .value (.whole n) bytes
    else if n = 0 ∨ 0x8000000000000000 < n then .value .decimal bytes
    else .value (.whole (-(n : Int))) bytes

/-- Reads on in a number that has more digits than 64 bits hold; the further digits of the whole
part count for its size only. -/
def readLong (n : Nat) : Reader Number := fun bytes =>
  let more := bytes.takeWhile isDigit
  match bytes.dropWhile isDigit with
  | 0x2E :: rest => readPlaces n more.length rest
  | rest => readAfterDecimal n more.length rest

/-- Reads a number behind its sign. -/
def readNumber (positive : Bool) : Reader Number
  | [] => .fault .truncated []
  | b :: rest =>
    if b = 0x30 then
      match rest with
      | c :: _ => if isDigit c then .fault .malformed rest else readAfterWhole positive 0 rest
      | [] => readAfterWhole positive 0 []
    else if isDigit b then
      let ((n, _), rest) := digitsOnto (digitValue b) 0 rest
      match rest with
      | c :: _ => if isDigit c then readLong n rest else readAfterWhole positive n rest
      | [] => readAfterWhole positive n []
    else .fault .malformed rest

/-- Passes over an exponent behind its letter. -/
def skipExponent : Reader Unit := fun bytes =>
  let digits := match bytes with
    | 0x2B :: rest => rest
    | 0x2D :: rest => rest
    | bytes => bytes
  match digits with
  | b :: rest =>
    if isDigit b then .value () (rest.dropWhile isDigit) else .fault .malformed rest
  | [] => .fault .malformed []

/-- Passes over decimal places behind the point. -/
def skipPlaces : Reader Unit
  | b :: rest =>
    if isDigit b then
      match rest.dropWhile isDigit with
      | 0x65 :: rest => skipExponent rest
      | 0x45 :: rest => skipExponent rest
      | rest => .value () rest
    else .fault .malformed (b :: rest)
  | [] => .fault .malformed []

/-- Passes over what may follow the whole part of a number. -/
def skipAfterWhole : Reader Unit
  | 0x2E :: rest => skipPlaces rest
  | 0x65 :: rest => skipExponent rest
  | 0x45 :: rest => skipExponent rest
  | rest => .value () rest

/-- Passes over a number behind its sign. -/
def skipNumber : Reader Unit
  | [] => .fault .malformed []
  | b :: rest =>
    if b = 0x30 then
      match rest with
      | c :: _ => if isDigit c then .fault .malformed rest else skipAfterWhole rest
      | [] => .value () []
    else if isDigit b then skipAfterWhole (rest.dropWhile isDigit)
    else .fault .malformed rest

/-! ## Passing over a value -/

/-- What is expected next while a value is passed over. -/
inductive Awaits
  /-- A value. -/
  | value
  /-- The name of a member. -/
  | name
  /-- An opened bracket's first item or its end. -/
  | firstOrEnd
  /-- A comma or the end of the innermost bracket. -/
  | commaOrEnd
  deriving DecidableEq, Repr

/-- Passes over a word, number or string that starts with this byte. -/
def skipScalar (b : UInt8) : Reader Unit := fun rest =>
  if b = 0x22 then skipString rest
  else if b = 0x6E then expect ull rest
  else if b = 0x74 then expect rue rest
  else if b = 0x66 then expect alse rest
  else if b = 0x2D then skipNumber rest
  else if isDigit b then skipNumber (b :: rest)
  else .fault .malformed (b :: rest)

/-- Passes over a name and its colon, behind the opening quote. -/
def skipName : Reader Unit := fun bytes =>
  match skipString bytes with
  | .fault f rest => .fault f rest
  | .value _ rest =>
    match skipSpace rest with
    | [] => .fault .truncated []
    | 0x3A :: rest => .value () rest
    | rest => .fault .malformed rest

/-- What is open while a value is passed over: what is expected next, and the open brackets,
innermost first, by whether each is an object. -/
abbrev Open := Awaits × List Bool

/-- Passes over the start of a value, or all of it if it is no bracket. -/
def skipStart (stack : List Bool) (b : UInt8) : Reader Open := fun rest =>
  if b = 0x5B then .value (.firstOrEnd, false :: stack) rest
  else if b = 0x7B then .value (.firstOrEnd, true :: stack) rest
  else match skipScalar b rest with
    | .value _ rest => .value (.commaOrEnd, stack) rest
    | .fault f rest => .fault f rest

/-- Passes over the name of a member. -/
def skipMemberName (stack : List Bool) (b : UInt8) : Reader Open := fun rest =>
  if b = 0x22 then
    match skipName rest with
    | .value _ rest => .value (.value, stack) rest
    | .fault f rest => .fault f rest
  else .fault .malformed (b :: rest)

/-- Whether the byte closes such a bracket. -/
def closes (isObject : Bool) (b : UInt8) : Bool := b == if isObject then 0x7D else 0x5D

/-- Passes over what starts with a byte that is no blank. -/
def skipStep (awaits : Awaits) (stack : List Bool) (b : UInt8) : Reader Open := fun rest =>
  match awaits, stack with
  | .value, stack => skipStart stack b rest
  | .name, stack => skipMemberName stack b rest
  | .firstOrEnd, isObject :: outer =>
    if closes isObject b then .value (.commaOrEnd, outer) rest
    else if isObject then skipMemberName stack b rest
    else skipStart stack b rest
  | .commaOrEnd, isObject :: outer =>
    if closes isObject b then .value (.commaOrEnd, outer) rest
    else if b = 0x2C then .value (if isObject then .name else .value, stack) rest
    else .fault .malformed (b :: rest)
  | _, [] => .fault .malformed (b :: rest)

/-- Passes over the rest of a value, in at most one step for each byte of `budget`. -/
def skipFrom (awaits : Awaits) (stack : List Bool) : (budget : Bytes) → Reader Unit
  | [], bytes => .fault .truncated bytes
  | _ :: budget, bytes =>
    match awaits, stack, skipSpace bytes with
    | .commaOrEnd, [], _ => .value () bytes
    | _, _, [] => .fault .truncated []
    | awaits, stack, b :: rest =>
      match skipStep awaits stack b rest with
      | .value (awaits, stack) rest => skipFrom awaits stack budget rest
      | .fault f rest => .fault f rest

/-- Passes over a value. -/
def skipValue : Reader Unit := fun bytes => skipFrom .value [] (0 :: bytes) bytes

end SignIn.Json
