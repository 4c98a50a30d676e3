-- The keys of the cache, with the templates that are in use by default: no
-- two users share a marker, and no one-time code is kept where a marker is.
import SignIn.Settings
import SignIn.Proofs.Json.Numbers

namespace SignIn

open Text (utf8)

/-! ## Numbers in decimal -/

theorem Text.Decimal.ofInt_injective {m n : Int}
    (h : Text.Decimal.ofInt m = Text.Decimal.ofInt n) : m = n := by
  have hu : utf8 (Text.Decimal.ofInt m) = utf8 (Text.Decimal.ofInt n) := by rw [h]
  have hne : ∀ k l r, Json.digitBytes k ≠ 0x2D :: Json.digitBytes l ++ r := by
    intro k l r hk
    exact absurd (Json.isDigit_of_mem_digitBytes k 0x2D (by rw [hk]; exact List.mem_cons_self))
      (by decide)
  cases m with
  | ofNat m =>
    cases n with
    | ofNat n =>
      rw [Json.utf8_ofNat, Json.utf8_ofNat] at hu
      rw [← Json.numberOf_digitBytes m, hu, Json.numberOf_digitBytes]
    | negSucc n =>
      rw [Json.utf8_ofNat, Json.utf8_negSucc] at hu
      exact absurd (by rw [hu, List.append_nil]) (hne m (n + 1) [])
  | negSucc m =>
    cases n with
    | ofNat n =>
      rw [Json.utf8_ofNat, Json.utf8_negSucc] at hu
      exact absurd (by rw [← hu, List.append_nil]) (hne n (m + 1) [])
    | negSucc n =>
      rw [Json.utf8_negSucc, Json.utf8_negSucc] at hu
      have hd := (List.cons.inj hu).2
      have : m + 1 = n + 1 := by
        rw [← Json.numberOf_digitBytes (m + 1), hd, Json.numberOf_digitBytes]
      rw [show m = n by omega]

/-! ## Keys -/

namespace Settings

/-- The settings have the key templates that are in use by default. -/
structure HasDefaultKeys (s : Settings) : Prop where
  access : s.accessKeyTemplate = "access_token:\x7b\x7d"
  code : s.codeKeyTemplate = "otp:\x7b\x7d"

variable {s : Settings}

theorem HasDefaultKeys.toList_accessKey (h : s.HasDefaultKeys) (u : Int) :
    (s.accessKey u).toList = "access_token:".toList ++ (Text.Decimal.ofInt u).toList := by
  unfold accessKey
  rw [h.access, Text.Template.toList_fill]
  simp [Text.Template.fillChars]

theorem HasDefaultKeys.toList_codeKey (h : s.HasDefaultKeys) (identifier : String) :
    (s.codeKey identifier).toList = "otp:".toList ++ identifier.toList := by
  unfold codeKey
  rw [h.code, Text.Template.toList_fill]
  simp [Text.Template.fillChars]

/-- No two users share a marker. -/
theorem HasDefaultKeys.accessKey_injective (h : s.HasDefaultKeys) {u v : Int}
    (he : s.accessKey u = s.accessKey v) : u = v := by
  have hl : (s.accessKey u).toList = (s.accessKey v).toList := by rw [he]
  rw [h.toList_accessKey, h.toList_accessKey, List.append_cancel_left_eq] at hl
  exact Text.Decimal.ofInt_injective (String.toList_injective hl)

/-- No two identifiers share a one-time code. -/
theorem HasDefaultKeys.codeKey_injective (h : s.HasDefaultKeys) {a b : String}
    (he : s.codeKey a = s.codeKey b) : a = b := by
  have hl : (s.codeKey a).toList = (s.codeKey b).toList := by rw [he]
  rw [h.toList_codeKey, h.toList_codeKey, List.append_cancel_left_eq] at hl
  exact String.toList_injective hl

/-- No one-time code is kept where a marker is. -/
theorem HasDefaultKeys.codeKey_ne_accessKey (h : s.HasDefaultKeys) (identifier : String) (u : Int) :
    s.codeKey identifier ≠ s.accessKey u := by
  intro he
  have hl : (s.codeKey identifier).toList = (s.accessKey u).toList := by rw [he]
  rw [h.toList_accessKey, h.toList_codeKey] at hl
  exact absurd (List.cons.inj hl).1 (by decide)

end Settings

end SignIn
