-- What is passed over is what the lexer sees: a value that is passed over is
-- one whole token or bracket.
import SignIn.Proofs.Json.ValueTracking

namespace SignIn.Json

open Lexer (Passes passes_one passes_inert passes_quote passes_backslash passes_escape passes_minus
  passes_first_letter passes_exponent_letter passes_exponent_sign passes_digit passes_sign_digit
  passes_open passes_close passes_comma passes_to passes_digits)

variable {d : Nat} {x y : Lexer} {v r : Bytes}

theorem Tracks.passes {α : Type} {m : Reader α} {a : α} (ht : Tracks d x v y (m v))
    (h : m v = .value a r) : Passes x v y r := by
  rw [h] at ht
  exact ht

/-! ## Strings -/

theorem passes_skipEscape (h : skipEscape v = .value () r) :
    Passes ⟨.escaped, d⟩ v ⟨.quoted, d⟩ r := by
  unfold skipEscape at h
  split at h
  · cases h
  · rename_i b v
    split at h
    · rename_i hb
      cases h
      exact passes_one (if_pos hb) nofun
    split at h
    · rename_i hb
      subst hb
      split at h
      · rename_i n w hw
        cases h
        exact (passes_escape v).trans ((tracks_readHex v).passes hw)
      · cases h
    · cases h

theorem passes_skipStringFrom {budget : Bytes} (h : skipStringFrom budget v = .value () r) :
    Passes ⟨.quoted, d⟩ v ⟨.plain, d⟩ r := by
  induction budget generalizing v with
  | nil => cases h
  | cons _ budget ih =>
    cases v with
    | nil => cases h
    | cons b v =>
      simp only [skipStringFrom] at h
      by_cases hquote : b = 0x22
      · rw [if_pos hquote] at h
        cases h
        exact passes_one (if_pos hquote) nofun
      rw [if_neg hquote] at h
      by_cases hslash : b = 0x5C
      · rw [if_pos hslash] at h
        subst hslash
        split at h
        · rename_i w hw
          exact (passes_backslash v).trans ((passes_skipEscape hw).trans (ih h))
        · cases h
      · rw [if_neg hslash] at h
        split at h
        · cases h
        · exact .step (Lexer.next_quoted hquote hslash) nofun (ih h)

theorem passes_skipString (h : skipString v = .value () r) :
    Passes ⟨.quoted, d⟩ v ⟨.plain, d⟩ r := passes_skipStringFrom h

/-! ## Numbers -/

theorem passes_skipExponent (h : skipExponent v = .value () r) :
    Passes ⟨.sign, d⟩ v ⟨.plain, d⟩ r := by
  unfold skipExponent at h
  dsimp only at h
  split at h
  · rename_i b w he
    have hv : Passes ⟨.sign, d⟩ v ⟨.sign, d⟩ (b :: w) := by
      split at he
      · rw [← he]
        exact passes_exponent_sign (Or.inr rfl) _
      · rw [← he]
        exact passes_exponent_sign (Or.inl rfl) _
      · rw [← he]
        exact .refl _ _
    split at h
    · rename_i hb
      cases h
      exact hv.trans ((passes_sign_digit hb w).trans (passes_digits w))
    · cases h
  · cases h

/-- Behind the letter of an exponent comes the exponent. -/
theorem passes_exponent {b : UInt8} (hb : b = 0x65 ∨ b = 0x45) (h : skipExponent v = .value () r) :
    Passes ⟨.plain, d⟩ (b :: v) ⟨.plain, d⟩ r :=
  (passes_exponent_letter hb v).trans (passes_skipExponent h)

theorem passes_skipPlaces (h : skipPlaces v = .value () r) :
    Passes ⟨.plain, d⟩ v ⟨.plain, d⟩ r := by
  unfold skipPlaces at h
  split at h
  · rename_i b w
    split at h
    · rename_i hb
      refine (passes_digit hb w).trans ((passes_digits w).trans ?_)
      split at h
      · rename_i w' he
        rw [he]
        exact passes_exponent (Or.inl rfl) h
      · rename_i w' he
        rw [he]
        exact passes_exponent (Or.inr rfl) h
      · cases h
        exact .refl _ _
    · cases h
  · cases h

theorem passes_skipAfterWhole (h : skipAfterWhole v = .value () r) :
    Passes ⟨.plain, d⟩ v ⟨.plain, d⟩ r := by
  unfold skipAfterWhole at h
  split at h
  · exact (passes_inert rfl).trans (passes_skipPlaces h)
  · exact passes_exponent (Or.inl rfl) h
  · exact passes_exponent (Or.inr rfl) h
  · cases h
    exact .refl _ _

/-- A number starts with a digit, and goes on behind it. -/
theorem skipNumber_value (h : skipNumber v = .value () r) :
    ∃ b w, v = b :: w ∧ isDigit b = true ∧ Passes ⟨.plain, d⟩ w ⟨.plain, d⟩ r := by
  unfold skipNumber at h
  split at h
  · cases h
  · rename_i b w
    refine ⟨b, w, rfl, ?_⟩
    split at h
    · rename_i hb
      subst hb
      refine ⟨rfl, ?_⟩
      split at h
      · split at h
        · cases h
        · exact passes_skipAfterWhole h
      · cases h
        exact .refl _ _
    · split at h
      · rename_i hb
        exact ⟨hb, (passes_digits w).trans (passes_skipAfterWhole h)⟩
      · cases h

/-! ## Values -/

theorem passes_skipScalar {b : UInt8} (h : skipScalar b v = .value () r) :
    Passes ⟨.plain, d⟩ (b :: v) ⟨.plain, d⟩ r := by
  unfold skipScalar at h
  by_cases hquote : b = 0x22
  · rw [if_pos hquote] at h
    subst hquote
    exact (passes_quote v).trans (passes_skipString h)
  rw [if_neg hquote] at h
  by_cases hnull : b = 0x6E
  · rw [if_pos hnull] at h
    subst hnull
    exact (passes_first_letter rfl v).trans ((tracks_expect rfl rfl v).passes h)
  rw [if_neg hnull] at h
  by_cases htrue : b = 0x74
  · rw [if_pos htrue] at h
    subst htrue
    exact (passes_first_letter rfl v).trans ((tracks_expect rfl rfl v).passes h)
  rw [if_neg htrue] at h
  by_cases hfalse : b = 0x66
  · rw [if_pos hfalse] at h
    subst hfalse
    exact (passes_first_letter rfl v).trans ((tracks_expect rfl rfl v).passes h)
  rw [if_neg hfalse] at h
  by_cases hsign : b = 0x2D
  · rw [if_pos hsign] at h
    subst hsign
    obtain ⟨c, w, rfl, hc, hw⟩ := skipNumber_value (d := d) h
    exact (passes_minus _).trans ((passes_sign_digit hc w).trans hw)
  rw [if_neg hsign] at h
  split at h
  · obtain ⟨c, w, he, hc, hw⟩ := skipNumber_value (d := d) h
    cases he
    exact (passes_digit hc v).trans hw
  · cases h

theorem passes_skipName (h : skipName v = .value () r) :
    Passes ⟨.quoted, d⟩ v ⟨.plain, d⟩ r := by
  unfold skipName at h
  split at h
  · cases h
  · rename_i w hw
    refine (passes_skipString hw).trans ?_
    split at h
    · cases h
    · rename_i w' he
      cases h
      exact (passes_to he).trans (passes_inert rfl)
    · cases h

/-- A step in passing over a value brings the lexer as deep as there are open brackets. -/
theorem passes_skipStart {stack : List Bool} {b : UInt8} {out : Open}
    (h : skipStart stack b v = .value out r) :
    Passes ⟨.plain, d + 1 + stack.length⟩ (b :: v) ⟨.plain, d + 1 + out.2.length⟩ r := by
  unfold skipStart at h
  split at h
  · rename_i hb
    cases h
    subst hb
    exact passes_open (Or.inl rfl) v
  split at h
  · rename_i hb
    cases h
    subst hb
    exact passes_open (Or.inr rfl) v
  split at h
  · rename_i hs
    cases h
    exact passes_skipScalar hs
  · cases h

theorem passes_skipMemberName {stack : List Bool} {b : UInt8} {out : Open}
    (h : skipMemberName stack b v = .value out r) :
    Passes ⟨.plain, d + 1 + stack.length⟩ (b :: v) ⟨.plain, d + 1 + out.2.length⟩ r := by
  unfold skipMemberName at h
  split at h
  · rename_i hb
    subst hb
    split at h
    · rename_i hn
      cases h
      exact (passes_quote v).trans (passes_skipName hn)
    · cases h
  · cases h

theorem passes_closes {isObject : Bool} {b : UInt8} (hb : closes isObject b = true) (e : Nat)
    (v : Bytes) : Passes ⟨.plain, e + 1⟩ (b :: v) ⟨.plain, e⟩ v := by
  unfold closes at hb
  obtain rfl := eq_of_beq hb
  refine passes_close ?_ v
  cases isObject with
  | true => exact Or.inr rfl
  | false => exact Or.inl rfl

theorem passes_skipStep {awaits : Awaits} {stack : List Bool} {b : UInt8} {out : Open}
    (h : skipStep awaits stack b v = .value out r) :
    Passes ⟨.plain, d + 1 + stack.length⟩ (b :: v) ⟨.plain, d + 1 + out.2.length⟩ r := by
  unfold skipStep at h
  split at h
  · exact passes_skipStart h
  · exact passes_skipMemberName h
  · rename_i isObject outer
    split at h
    · rename_i hb
      cases h
      exact passes_closes hb _ v
    split at h
    · exact passes_skipMemberName h
    · exact passes_skipStart h
  · rename_i isObject outer
    split at h
    · rename_i hb
      cases h
      exact passes_closes hb _ v
    split at h
    · rename_i hb
      cases h
      subst hb
      refine passes_comma ?_ v
      rw [List.length_cons]
      omega
    · cases h
  · cases h

theorem passes_skipFrom {awaits : Awaits} {stack : List Bool} {budget : Bytes}
    (h : skipFrom awaits stack budget v = .value () r) :
    Passes ⟨.plain, d + 1 + stack.length⟩ v ⟨.plain, d + 1⟩ r := by
  induction budget generalizing awaits stack v with
  | nil => cases h
  | cons _ budget ih =>
    unfold skipFrom at h
    split at h
    · cases h
      exact .refl _ _
    · cases h
    · rename_i b w he
      refine (passes_to he).trans ?_
      split at h
      · rename_i awaits' stack' w' hs
        exact (passes_skipStep hs).trans (ih h)
      · cases h

/-- A value that is passed over is a token or a bracket. -/
theorem passes_skipValue (h : skipValue v = .value () r) :
    Passes ⟨.plain, d + 1⟩ v ⟨.plain, d + 1⟩ r := by
  unfold skipValue at h
  have hp := passes_skipFrom (d := d) h
  exact hp

end SignIn.Json
