-- Quoted text: between double quotes, with the quote, the backslash and all
-- characters that would not show written as escapes.
import SignIn.Text.EscapeTable

namespace SignIn.Text

/-- Whether a character is written by its code point. -/
def isHidden (c : Char) : Bool :=
  if c.toNat < 0x20 || c.toNat == 0x7F then true
  else if c.toNat < 0x7F then false
  else hidden.contains c

/-- The escape that names the code point in hexadecimal. -/
def codePointEscape (c : Char) : List Char :=
  ['\\', 'u', '\x7b'] ++ Nat.toDigits 16 c.toNat ++ ['\x7d']

/-- The characters that stand for `c` between the quotes. -/
def quotedChar (c : Char) : List Char :=
  match c with
  | '\x00' => ['\\', '0']
  | '\t' => ['\\', 't']
  | '\n' => ['\\', 'n']
  | '\r' => ['\\', 'r']
  | '"' => ['\\', '"']
  | '\\' => ['\\', '\\']
  | c => if isHidden c then codePointEscape c else [c]

/-- The text between double quotes. -/
def quoted (s : String) : String :=
  String.ofList ('"' :: (s.toList.map quotedChar).flatten ++ ['"'])

/-- Quoted texts between brackets, parted by commas. -/
def quotedList (xs : List String) : String :=
  "[" ++ String.intercalate ", " (xs.map quoted) ++ "]"

end SignIn.Text
