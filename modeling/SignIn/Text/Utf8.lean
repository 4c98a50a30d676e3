-- Texts as UTF-8 bytes.

namespace SignIn.Text

/-- The UTF-8 bytes of a text. -/
def utf8 (s : String) : List UInt8 := s.toByteArray.data.toList

/-- The text that the bytes spell in UTF-8, if they are well formed. -/
def ofUtf8? (bytes : List UInt8) : Option String := String.fromUTF8? ⟨bytes.toArray⟩

/-- The number of UTF-8 bytes of a text. -/
def utf8Size (s : String) : Nat := s.utf8ByteSize

theorem ofUtf8?_utf8 (s : String) : ofUtf8? (utf8 s) = some s := by
  have same : (⟨s.toByteArray.data⟩ : ByteArray) = s.toByteArray := rfl
  simp [ofUtf8?, utf8, String.fromUTF8?, String.fromUTF8, same, s.isValidUTF8]

end SignIn.Text
