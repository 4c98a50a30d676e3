-- Strings read back: a text between quotes, with its escapes, is read as that
-- text, and passed over where nobody wants it.
import SignIn.Proofs.Json.Numbers

namespace SignIn.Json

open Text (utf8)

/-! ## One character -/

/-- The bytes that a character is written with between quotes. -/
def charBytes (c : Char) : Bytes := (escaped c).flatMap String.utf8EncodeChar

/-- A byte that stands for itself between quotes. -/
def IsPlain (b : UInt8) : Prop := b ≠ 0x22 ∧ b ≠ 0x5C ∧ ¬ b < 0x20

/-- How a character is written: as itself, or as an escape that is read back as it. -/
inductive Written (c : Char) : Bytes → Prop
  | plain (h : ∀ b ∈ String.utf8EncodeChar c, IsPlain b) : Written c (String.utf8EncodeChar c)
  | escape (e : Bytes)
      (hread : ∀ rest, readEscape (e ++ rest) = .value (String.utf8EncodeChar c) rest)
      (hskip : ∀ rest, skipEscape (e ++ rest) = .value () rest) : Written c (0x5C :: e)

theorem isPlain_of_mem {c : Char} (h : 0x20 ≤ c.toNat) (hq : c.toNat ≠ 0x22) (hb : c.toNat ≠ 0x5C)
    (b : UInt8) (hm : b ∈ String.utf8EncodeChar c) : IsPlain b := by
  unfold IsPlain
  rw [UInt8.lt_iff_toNat_lt, ne_eq, ne_eq, ← UInt8.toNat_inj, ← UInt8.toNat_inj]
  have e1 : (0x22 : UInt8).toNat = 0x22 := rfl
  have e2 : (0x5C : UInt8).toNat = 0x5C := rfl
  have e3 : (0x20 : UInt8).toNat = 0x20 := rfl
  by_cases ha : c.toNat < 0x80
  · rw [Text.utf8EncodeChar_of_ascii ha, List.mem_singleton] at hm
    have : b.toNat = c.toNat := by
      rw [hm, UInt8.toNat_ofNat']
      omega
    omega
  · have := Text.le_of_mem_utf8EncodeChar (by omega) hm
    rw [UInt8.le_iff_toNat_le] at this
    have e4 : (0x80 : UInt8).toNat = 0x80 := rfl
    omega

/-- A control character is read back from its four hexadecimal digits. -/
theorem readHex_control {n : Nat} (h : n < 0x20) (rest : Bytes) :
    readHex (0x30 :: 0x30 :: UInt8.ofNat (Nat.digitChar (n / 16)).toNat ::
      UInt8.ofNat (Nat.digitChar (n % 16)).toNat :: rest) = .value n rest := by
  have h0 : Codec.Hex.byteValue? 0x30 = some 0 := by decide
  have hx : ∀ m < 0x20, Codec.Hex.byteValue? (UInt8.ofNat (Nat.digitChar (m / 16)).toNat) =
      some (m / 16) ∧ Codec.Hex.byteValue? (UInt8.ofNat (Nat.digitChar (m % 16)).toNat) =
      some (m % 16) := by decide
  obtain ⟨h1, h2⟩ := hx n h
  unfold readHex
  simp only [h0, h1, h2]
  rw [show 0 * 4096 + 0 * 256 + n / 16 * 16 + n % 16 = n by omega]

theorem toNat_digitChar_lt {n : Nat} (h : n < 16) : (Nat.digitChar n).toNat < 0x80 := by
  have : ∀ m < 16, (Nat.digitChar m).toNat < 0x80 := by decide
  exact this n h

theorem written_control {c : Char} (h : c.toNat < 0x20) :
    Written c ((['\\', 'u', '0', '0', Nat.digitChar (c.toNat / 16),
      Nat.digitChar (c.toNat % 16)] : List Char).flatMap String.utf8EncodeChar) := by
  have h1 := Text.utf8EncodeChar_of_ascii (toNat_digitChar_lt (by omega : c.toNat / 16 < 16))
  have h2 := Text.utf8EncodeChar_of_ascii (toNat_digitChar_lt (by omega : c.toNat % 16 < 16))
  have hb : ((['\\', 'u', '0', '0', Nat.digitChar (c.toNat / 16),
      Nat.digitChar (c.toNat % 16)] : List Char).flatMap String.utf8EncodeChar) =
      0x5C :: [0x75, 0x30, 0x30, UInt8.ofNat (Nat.digitChar (c.toNat / 16)).toNat,
        UInt8.ofNat (Nat.digitChar (c.toNat % 16)).toNat] := by
    simp only [List.flatMap_cons, List.flatMap_nil, h1, h2]
    rfl
  rw [hb]
  refine .escape _ ?_ ?_
  · intro rest
    have hu : escapedByte? 0x75 = none := rfl
    simp only [List.cons_append, List.nil_append, readEscape, hu, if_true, readCodePoint,
      readHex_control h]
    rw [if_neg (by omega), if_pos (by omega), Char.ofNat_toNat]
  · intro rest
    have hu : escapedByte? 0x75 = none := rfl
    simp only [List.cons_append, List.nil_append, skipEscape, hu, if_true, readHex_control h]
    rfl

theorem written_charBytes (c : Char) : Written c (charBytes c) := by
  unfold charBytes
  by_cases hl : c ∈ ['"', '\\', '\x08', '\x09', '\x0a', '\x0c', '\x0d']
  · simp only [List.mem_cons, List.not_mem_nil, or_false] at hl
    rcases hl with rfl | rfl | rfl | rfl | rfl | rfl | rfl
    all_goals exact .escape _ (fun _ => rfl) (fun _ => rfl)
  · simp only [List.mem_cons, List.not_mem_nil, or_false, not_or] at hl
    obtain ⟨h1, h2, h3, h4, h5, h6, h7⟩ := hl
    unfold escaped
    split
    all_goals try contradiction
    split
    · exact written_control ‹_›
    · rw [List.flatMap_cons, List.flatMap_nil, List.append_nil]
      refine .plain (isPlain_of_mem (by omega) ?_ ?_)
      · exact fun h => h1 (Char.toNat_inj.1 h)
      · exact fun h => h2 (Char.toNat_inj.1 h)

/-! ## Texts -/

theorem readBytesFrom_plain {bs : Bytes} (h : ∀ b ∈ bs, IsPlain b) (done budget tail : Bytes)
    (hl : bs.length ≤ budget.length) :
    readBytesFrom done budget (bs ++ tail) =
      readBytesFrom (bs.reverse ++ done) (budget.drop bs.length) tail := by
  induction bs generalizing done budget with
  | nil => rfl
  | cons b bs ih =>
    obtain ⟨h1, h2, h3⟩ := h b List.mem_cons_self
    cases budget with
    | nil => simp only [List.length_cons, List.length_nil] at hl; omega
    | cons x budget =>
      rw [List.cons_append, readBytesFrom]
      simp only [h1, h2, h3, if_false]
      rw [ih (fun c hc => h c (List.mem_cons_of_mem b hc)) _ _
        (by simp only [List.length_cons] at hl; omega)]
      simp only [List.reverse_cons, List.append_assoc, List.singleton_append, List.length_cons,
        List.drop_succ_cons]

theorem skipStringFrom_plain {bs : Bytes} (h : ∀ b ∈ bs, IsPlain b) (budget tail : Bytes)
    (hl : bs.length ≤ budget.length) :
    skipStringFrom budget (bs ++ tail) = skipStringFrom (budget.drop bs.length) tail := by
  induction bs generalizing budget with
  | nil => rfl
  | cons b bs ih =>
    obtain ⟨h1, h2, h3⟩ := h b List.mem_cons_self
    cases budget with
    | nil => simp only [List.length_cons, List.length_nil] at hl; omega
    | cons x budget =>
      rw [List.cons_append, skipStringFrom]
      simp only [h1, h2, h3, if_false]
      rw [ih (fun c hc => h c (List.mem_cons_of_mem b hc)) _
        (by simp only [List.length_cons] at hl; omega)]
      simp only [List.length_cons, List.drop_succ_cons]

/-- One written character is read, and passed over, in at most as many steps as it has bytes. -/
theorem Written.step {c : Char} {e : Bytes} (h : Written c e) (done budget tail : Bytes)
    (hl : e.length ≤ budget.length) :
    ∃ k ≤ e.length,
      readBytesFrom done budget (e ++ tail) =
        readBytesFrom ((String.utf8EncodeChar c).reverse ++ done) (budget.drop k) tail ∧
      skipStringFrom budget (e ++ tail) = skipStringFrom (budget.drop k) tail := by
  cases h with
  | plain hp =>
    exact ⟨_, Nat.le_refl _, readBytesFrom_plain hp done budget tail hl,
      skipStringFrom_plain hp budget tail hl⟩
  | escape e hread hskip =>
    cases budget with
    | nil => simp only [List.length_cons, List.length_nil] at hl; omega
    | cons x budget =>
      refine ⟨1, by simp only [List.length_cons]; omega, ?_, ?_⟩
      · rw [List.cons_append, readBytesFrom, if_neg (by decide), if_pos rfl, hread]
        rfl
      · rw [List.cons_append, skipStringFrom, if_neg (by decide), if_pos rfl, hskip]
        rfl

theorem readBytesFrom_chars (cs : List Char) (done budget rest : Bytes)
    (hl : (cs.flatMap charBytes).length < budget.length) :
    readBytesFrom done budget (cs.flatMap charBytes ++ 0x22 :: rest) =
        .value (done.reverse ++ cs.flatMap String.utf8EncodeChar) rest ∧
      skipStringFrom budget (cs.flatMap charBytes ++ 0x22 :: rest) = .value () rest := by
  induction cs generalizing done budget with
  | nil =>
    cases budget with
    | nil => simp at hl
    | cons x budget =>
      refine ⟨?_, ?_⟩
      · rw [List.flatMap_nil, List.nil_append, readBytesFrom, if_pos rfl, List.flatMap_nil,
          List.append_nil]
      · rw [List.flatMap_nil, List.nil_append, skipStringFrom, if_pos rfl]
  | cons c cs ih =>
    rw [List.flatMap_cons, List.length_append] at hl
    obtain ⟨k, hk, hread, hskip⟩ := (written_charBytes c).step done budget
      (cs.flatMap charBytes ++ 0x22 :: rest) (by omega)
    obtain ⟨h1, h2⟩ := ih ((String.utf8EncodeChar c).reverse ++ done) (budget.drop k)
      (by rw [List.length_drop]; omega)
    rw [List.flatMap_cons, List.append_assoc, hread, hskip, h1, h2]
    simp

/-- The bytes of a text between its quotes, with the closing one. -/
def bodyBytes (s : String) : Bytes := s.toList.flatMap charBytes ++ [0x22]

theorem utf8_quote (s : String) : utf8 (quote s) = 0x22 :: bodyBytes s := by
  unfold quote bodyBytes
  rw [Text.utf8_ofList, List.cons_append, List.flatMap_cons, List.flatMap_append]
  have hc : (s.toList.flatMap escaped).flatMap String.utf8EncodeChar =
      s.toList.flatMap charBytes := by
    rw [List.flatMap_assoc]
    rfl
  rw [hc]
  rfl

/-- A text is read back behind its opening quote. -/
theorem readStringBody_body (s : String) (rest : Bytes) :
    readStringBody (bodyBytes s ++ rest) = .value s rest := by
  have h := (readBytesFrom_chars s.toList [] (0 :: (bodyBytes s ++ rest)) rest (by
    simp only [bodyBytes, List.length_cons, List.length_append]; omega)).1
  have he : bodyBytes s ++ rest = s.toList.flatMap charBytes ++ 0x22 :: rest := by
    simp only [bodyBytes, List.append_assoc, List.singleton_append]
  unfold readStringBody
  rw [he] at h ⊢
  simp only [h, List.reverse_nil, List.nil_append]
  rw [← Text.utf8_eq_flatMap, Text.ofUtf8?_utf8]

/-- A text is passed over behind its opening quote. -/
theorem skipString_body (s : String) (rest : Bytes) :
    skipString (bodyBytes s ++ rest) = .value () rest := by
  have he : bodyBytes s ++ rest = s.toList.flatMap charBytes ++ 0x22 :: rest := by
    simp only [bodyBytes, List.append_assoc, List.singleton_append]
  unfold skipString
  rw [he]
  exact (readBytesFrom_chars s.toList [] _ rest (by
    simp only [List.length_cons, List.length_append]; omega)).2

theorem readText_quote (s : String) (rest : Bytes) :
    readText (utf8 (quote s) ++ rest) = .value s rest := by
  have hread : readText (0x22 :: (bodyBytes s ++ rest)) =
      readStringBody (bodyBytes s ++ rest) := by
    unfold readText
    rw [readBy_cons _ (by decide) (by rfl)]
    rfl
  rw [utf8_quote, List.cons_append, hread, readStringBody_body]

end SignIn.Json
