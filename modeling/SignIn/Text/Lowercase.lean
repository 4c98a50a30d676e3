-- Full lower case. Every character has one image, of one character or (for
-- the dotted capital I) two, except the capital sigma: at the end of a word
-- it becomes the final form.
import SignIn.Text.CaseTable
import SignIn.Text.Blank

namespace SignIn.Text

/-- Capital sigma, the one letter whose image depends on its neighbours. -/
def capitalSigma : Char := 'Σ'

/-- The image of a character beyond ASCII when its neighbours do not count. -/
def lowerByTable (c : Char) : List Char :=
  if c = 'İ' then ['i', '\u0307']
  else match lowerRuns.find? (·.contains c.toNat) with
    | some r => [Char.ofNat (r.apply c.toNat)]
    | none => [c]

/-- The image of a character when its neighbours do not count. -/
def lowerChar (c : Char) : List Char :=
  if c.toNat < 0x80 then [c.toLower] else lowerByTable c

/-- The first character that is not case-ignorable exists and is cased. -/
def startsCased (cs : List Char) : Bool :=
  match cs.dropWhile caseIgnorables.contains with
  | [] => false
  | c :: _ => casedLetters.contains c

/-- Whether a sigma between these characters ends a word: a cased letter stands before it and none
after it. `before` is given backwards, nearest character first. -/
def endsWord (before after : List Char) : Bool :=
  startsCased before && !startsCased after

/-- The image of a character between these neighbours. -/
def lowerAt (before : List Char) (c : Char) (after : List Char) : List Char :=
  if c = capitalSigma then (if endsWord before after then ['ς'] else ['σ']) else lowerChar c

/-- Lowers the characters from left to right: `before` holds those already read and `done` their
images, both backwards. -/
def lowerFrom (before done : List Char) : List Char → List Char
  | [] => done.reverse
  | c :: after => lowerFrom (c :: before) ((lowerAt before c after).reverse ++ done) after

/-- The text in lower case. -/
def lowercase (s : String) : String := String.ofList (lowerFrom [] [] s.toList)

/-- An email or one-time-code identifier as it is stored and compared: trimmed, in lower case. -/
def normalize (s : String) : String := lowercase (trim s)

/-! ## Lowering as a plain recursion -/

/-- The images of the characters in order. -/
def lowerImages (before : List Char) : List Char → List Char
  | [] => []
  | c :: after => lowerAt before c after ++ lowerImages (c :: before) after

theorem lowerFrom_eq (before done cs : List Char) :
    lowerFrom before done cs = done.reverse ++ lowerImages before cs := by
  induction cs generalizing before done with
  | nil => simp [lowerFrom, lowerImages]
  | cons c cs ih => simp [lowerFrom, lowerImages, ih]

theorem toList_lowercase (s : String) : (lowercase s).toList = lowerImages [] s.toList := by
  simp [lowercase, lowerFrom_eq]

end SignIn.Text
