-- Numbers are what the lexer sees: the digits, the point and the exponent that
-- are read as one number are one token.
import SignIn.Proofs.Json.Tracking
import SignIn.Proofs.Json.Numbers

namespace SignIn.Json

open Lexer (Passes Falls passes_inert passes_minus passes_exponent_letter passes_exponent_sign
  passes_digit passes_sign_digit passes_digits)

variable {d : Nat} {v w : Bytes}

theorem passes_digitsOnto (n count : Nat) (v : Bytes) :
    Passes ⟨.plain, d⟩ v ⟨.plain, d⟩ (digitsOnto n count v).2 := by
  induction v generalizing n count with
  | nil => exact .refl _ _
  | cons b v ih =>
    simp only [digitsOnto]
    split
    · rename_i h
      exact (passes_digit (by simp_all) v).trans (ih _ _)
    · exact .refl _ _

theorem tracks_decimalOf (significand : Nat) (exponent : Int) (v : Bytes) :
    Tracks d ⟨.plain, d⟩ v ⟨.plain, d⟩ (decimalOf significand exponent v) := by
  unfold decimalOf
  split
  · exact tracks_fault (Nat.le_refl d) _ v
  · exact .refl _ _

theorem tracks_readExponentDigits (significand : Nat) (start : Int) (negative : Bool) (n : Nat)
    (v : Bytes) : Tracks d ⟨.plain, d⟩ v ⟨.plain, d⟩
      (readExponentDigits significand start negative n v) := by
  induction v generalizing n with
  | nil => exact tracks_decimalOf _ _ []
  | cons b v ih =>
    simp only [readExponentDigits]
    split
    · rename_i hb
      refine .of_passes (passes_digit hb v) ?_
      split
      · split
        · exact tracks_fault (Nat.le_refl d) _ v
        · exact passes_digits v
      · exact ih _
    · exact tracks_decimalOf _ _ (b :: v)

theorem tracks_readExponent (significand : Nat) (start : Int) (v : Bytes) :
    Tracks d ⟨.sign, d⟩ v ⟨.plain, d⟩ (readExponent significand start v) := by
  unfold readExponent
  split
  rename_i negative w he
  have hsign : Passes ⟨.sign, d⟩ v ⟨.sign, d⟩ w := by
    split at he
    · cases he
      exact passes_exponent_sign (Or.inr rfl) _
    · cases he
      exact passes_exponent_sign (Or.inl rfl) _
    · cases he
      exact .refl _ _
  refine .of_passes hsign ?_
  -- Behind the sign the digits begin.
  clear he hsign
  cases w with
  | nil => exact Falls.refl (Nat.le_refl d) []
  | cons b w =>
    dsimp only
    split
    · rename_i hb
      exact .of_passes (passes_sign_digit hb w) (tracks_readExponentDigits _ _ _ _ w)
    · exact tracks_fall (by nofun) _ b w

/-- Behind the letter of an exponent comes the exponent. -/
theorem tracks_exponent {b : UInt8} (hb : b = 0x65 ∨ b = 0x45) (significand : Nat) (start : Int)
    (v : Bytes) :
    Tracks d ⟨.plain, d⟩ (b :: v) ⟨.plain, d⟩ (readExponent significand start v) :=
  .of_passes (passes_exponent_letter hb v) (tracks_readExponent _ _ v)

theorem tracks_readAfterDecimal (significand : Nat) (exponent : Int) (v : Bytes) :
    Tracks d ⟨.plain, d⟩ v ⟨.plain, d⟩ (readAfterDecimal significand exponent v) := by
  unfold readAfterDecimal
  split
  · exact tracks_exponent (Or.inl rfl) _ _ _
  · exact tracks_exponent (Or.inr rfl) _ _ _
  · exact tracks_decimalOf _ _ _

theorem tracks_readPlaces (significand : Nat) (before : Int) (v : Bytes) :
    Tracks d ⟨.plain, d⟩ v ⟨.plain, d⟩ (readPlaces significand before v) := by
  have hp := passes_digitsOnto (d := d) significand 0 v
  unfold readPlaces
  split
  rename_i n count w he
  rw [he] at hp
  refine .of_passes hp ?_
  split
  · split
    · exact .of_passes (passes_digits _) (tracks_readAfterDecimal _ _ _)
    · split
      · exact tracks_fault (Nat.le_refl d) _ _
      · exact tracks_readAfterDecimal _ _ _
  · split
    · exact tracks_fault (Nat.le_refl d) _ []
    · exact tracks_readAfterDecimal _ _ []

/-- Behind the point come the decimal places. -/
theorem tracks_places (significand : Nat) (before : Int) (v : Bytes) :
    Tracks d ⟨.plain, d⟩ (0x2E :: v) ⟨.plain, d⟩ (readPlaces significand before v) :=
  .of_passes (passes_inert rfl) (tracks_readPlaces _ _ v)

theorem tracks_readAfterWhole (positive : Bool) (n : Nat) (v : Bytes) :
    Tracks d ⟨.plain, d⟩ v ⟨.plain, d⟩ (readAfterWhole positive n v) := by
  unfold readAfterWhole
  split
  · exact tracks_places _ _ _
  · exact tracks_exponent (Or.inl rfl) _ _ _
  · exact tracks_exponent (Or.inr rfl) _ _ _
  · split
    · exact .refl _ _
    · split <;> exact .refl _ _

theorem tracks_readLong (n : Nat) (v : Bytes) :
    Tracks d ⟨.plain, d⟩ v ⟨.plain, d⟩ (readLong n v) := by
  refine .of_passes (passes_digits v) ?_
  unfold readLong
  dsimp only
  split
  · rename_i w he
    rw [he]
    exact tracks_places _ _ w
  · exact tracks_readAfterDecimal _ _ _

/-- A number is read behind its first digit. -/
theorem tracks_readNumber_digit (positive : Bool) {b : UInt8} (hb : isDigit b = true) (v : Bytes) :
    Tracks d ⟨.plain, d⟩ v ⟨.plain, d⟩ (readNumber positive (b :: v)) := by
  unfold readNumber
  dsimp only
  split
  · split
    · split
      · exact tracks_fault (Nat.le_refl d) _ _
      · exact tracks_readAfterWhole _ _ _
    · exact tracks_readAfterWhole _ _ _
  · have hp := passes_digitsOnto (d := d) (digitValue b) 0 v
    generalize digitsOnto (digitValue b) 0 v = out at hp ⊢
    obtain ⟨⟨n, count⟩, w⟩ := out
    refine .of_passes hp ?_
    dsimp only
    split
    · split
      · exact tracks_readLong _ _
      · exact tracks_readAfterWhole _ _ _
    · exact tracks_readAfterWhole _ _ _

theorem tracks_readNumber (positive : Bool) {b : UInt8} (hb : isDigit b = true) (v : Bytes) :
    Tracks d ⟨.plain, d⟩ (b :: v) ⟨.plain, d⟩ (readNumber positive (b :: v)) :=
  .of_passes (passes_digit hb v) (tracks_readNumber_digit positive hb v)

/-- Behind a minus sign a number is read, or something that is none is left behind. -/
theorem tracks_readNumber_sign (v : Bytes) :
    Tracks d ⟨.sign, d⟩ v ⟨.plain, d⟩ (readNumber false v) := by
  cases v with
  | nil => exact Falls.refl (Nat.le_refl d) []
  | cons b v =>
    by_cases hb : isDigit b = true
    · exact .of_passes (passes_sign_digit hb v) (tracks_readNumber_digit false hb v)
    · have hzero : b ≠ 0x30 := by
        rintro rfl
        exact hb rfl
      have he : readNumber false (b :: v) = .fault .malformed v := by
        simp [readNumber, hzero, hb]
      rw [he]
      exact tracks_fall (by nofun) _ b v

theorem tracks_readAnyNumber {b : UInt8} (hb : (b == 0x2D || isDigit b) = true) (v : Bytes) :
    Tracks d ⟨.plain, d⟩ (b :: v) ⟨.plain, d⟩ (readAnyNumber (b :: v)) := by
  by_cases hsign : b = 0x2D
  · subst hsign
    have hnumber : Tracks d ⟨.plain, d⟩ (0x2D :: v) ⟨.plain, d⟩ (readNumber false v) :=
      .of_passes (passes_minus v) (tracks_readNumber_sign v)
    refine hnumber.of_same_rest (fun n w ho => ?_) fun f w ho => ?_
    · simp only [readAnyNumber, ho]
      cases n <;> exact ⟨_, rfl⟩
    · simp only [readAnyNumber, ho]
  · have hdigit : isDigit b = true := by simpa [hsign] using hb
    refine (tracks_readNumber true hdigit v).of_same_rest (fun n w ho => ?_) fun f w ho => ?_
    · cases n <;> simp [readAnyNumber, hsign, ho]
    · simp [readAnyNumber, hsign, ho]

end SignIn.Json
