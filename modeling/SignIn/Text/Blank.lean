-- White space, and texts without it at their ends.
import SignIn.Text.CharClass

namespace SignIn.Text

/-- The characters with the Unicode property White_Space. -/
def blanks : CharClass :=
  [⟨0x9, 0xD⟩, ⟨0x20, 0x20⟩, ⟨0x85, 0x85⟩, ⟨0xA0, 0xA0⟩, ⟨0x1680, 0x1680⟩, ⟨0x2000, 0x200A⟩,
    ⟨0x2028, 0x2029⟩, ⟨0x202F, 0x202F⟩, ⟨0x205F, 0x205F⟩, ⟨0x3000, 0x3000⟩]

/-- Whether the character is white space. -/
def isBlank (c : Char) : Bool := blanks.contains c

/-- The characters from the first one that is not white space on. -/
def trimStart (cs : List Char) : List Char := cs.dropWhile isBlank

/-- The characters up to the last one that is not white space. -/
def trimEnd (cs : List Char) : List Char := (cs.reverse.dropWhile isBlank).reverse

/-- The text without white space at either end. -/
def trim (s : String) : String := String.ofList (trimEnd (trimStart s.toList))

/-- A text is blank when it holds nothing but white space. -/
def isBlankText (s : String) : Bool := s.toList.all isBlank

/-! ## Trimming -/

theorem toList_trim (s : String) : (trim s).toList = trimEnd (trimStart s.toList) := by
  simp [trim]

theorem trimStart_of_head {c : Char} {cs : List Char} (h : isBlank c = false) :
    trimStart (c :: cs) = c :: cs := by
  simp [trimStart, h]

theorem trimStart_cons_blank {c : Char} {cs : List Char} (h : isBlank c = true) :
    trimStart (c :: cs) = trimStart cs := by
  simp [trimStart, h]

/-- A trimmed start is empty or begins with a character that is not white space. -/
theorem trimStart_eq_nil_or (cs : List Char) :
    trimStart cs = [] ∨ ∃ c r, trimStart cs = c :: r ∧ isBlank c = false := by
  induction cs with
  | nil => exact Or.inl rfl
  | cons c r ih =>
    by_cases h : isBlank c = true
    · rw [trimStart_cons_blank h]; exact ih
    · simp only [Bool.not_eq_true] at h
      exact Or.inr ⟨c, r, trimStart_of_head h, h⟩

theorem isBlankText_iff (s : String) : isBlankText s = true ↔ ∀ c ∈ s.toList, isBlank c = true := by
  simp [isBlankText]

end SignIn.Text
