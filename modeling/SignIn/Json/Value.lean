-- JSON values and their text: members in order, no space between them.
import SignIn.Text.Decimal

namespace SignIn

/-- A JSON value. -/
inductive Json
  | null
  | bool (b : Bool)
  | number (n : Int)
  /-- A number that is no whole one of 64 bits, by its spelling. -/
  | decimal (spelling : String)
  | string (s : String)
  | array (items : List Json)
  | object (members : List (String × Json))

namespace Json

instance : Inhabited Json := ⟨.null⟩

/-- The characters that stand for `c` between the quotes. -/
def escaped (c : Char) : List Char :=
  match c with
  | '"' => ['\\', '"']
  | '\\' => ['\\', '\\']
  | '\x08' => ['\\', 'b']
  | '\x09' => ['\\', 't']
  | '\x0a' => ['\\', 'n']
  | '\x0c' => ['\\', 'f']
  | '\x0d' => ['\\', 'r']
  | c =>
    if c.toNat < 0x20 then
      ['\\', 'u', '0', '0', Nat.digitChar (c.toNat / 16), Nat.digitChar (c.toNat % 16)]
    else [c]

/-- A text as a JSON string. -/
def quote (s : String) : String := String.ofList ('"' :: s.toList.flatMap escaped ++ ['"'])

mutual

/-- The text of a value. -/
def text : Json → String
  | .null => "null"
  | .bool true => "true"
  | .bool false => "false"
  | .number n => Text.Decimal.ofInt n
  | .decimal spelling => spelling
  | .string s => quote s
  | .array items => "[" ++ itemsText items ++ "]"
  | .object members => "\x7b" ++ membersText members ++ "\x7d"

/-- The texts of the items of an array, with commas between them. -/
def itemsText : List Json → String
  | [] => ""
  | [j] => text j
  | j :: k :: r => text j ++ "," ++ itemsText (k :: r)

/-- The names and texts of the members of an object, with commas between them. -/
def membersText : List (String × Json) → String
  | [] => ""
  | [(name, j)] => quote name ++ ":" ++ text j
  | (name, j) :: m :: r => quote name ++ ":" ++ text j ++ "," ++ membersText (m :: r)

end

end Json

end SignIn
