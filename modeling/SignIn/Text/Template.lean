-- Texts with a placeholder: the two characters of an empty pair of braces.

namespace SignIn.Text.Template

/-- Puts `value` for every placeholder, from left to right. -/
def fillChars (value : List Char) : List Char → List Char
  | '\x7b' :: '\x7d' :: r => value ++ fillChars value r
  | c :: r => c :: fillChars value r
  | [] => []

/-- The template with `value` in every placeholder. -/
def fill (template value : String) : String :=
  String.ofList (fillChars value.toList template.toList)

/-- Whether the characters hold a placeholder. -/
def holdsPlaceholder : List Char → Bool
  | '\x7b' :: '\x7d' :: _ => true
  | _ :: r => holdsPlaceholder r
  | [] => false

/-- Whether the template has a placeholder. -/
def hasPlaceholder (template : String) : Bool := holdsPlaceholder template.toList

theorem toList_fill (template value : String) :
    (fill template value).toList = fillChars value.toList template.toList := by
  simp [fill]

end SignIn.Text.Template
