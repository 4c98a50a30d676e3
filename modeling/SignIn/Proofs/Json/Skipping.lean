-- Values that nobody wants: numbers, texts and lists of texts are passed over
-- to their ends, and texts and numbers are read as the values that they are.
import SignIn.Proofs.Json.Records

namespace SignIn.Json

open Text (utf8)

/-! ## Numbers -/

theorem skipAfterWhole_of_ends {rest : Bytes} (h : Ends rest) :
    skipAfterWhole rest = .value () rest := by
  obtain ⟨b, r, rfl, rfl | rfl | rfl⟩ := h <;> rfl

theorem skipNumber_digitBytes (n : Nat) {rest : Bytes} (hr : Ends rest) :
    skipNumber (digitBytes n ++ rest) = .value () rest := by
  obtain ⟨c, r, rfl, hc⟩ := hr.eq_cons
  by_cases hz : n = 0
  · subst hz
    rw [digitBytes_of_lt (by decide), List.cons_append, List.nil_append]
    unfold skipNumber
    simp [hc, skipAfterWhole_of_ends hr]
  · obtain ⟨b, ds, he, hb, hb0⟩ := digitBytes_eq_cons hz
    have hd : ∀ x ∈ ds, isDigit x = true := fun x hx =>
      isDigit_of_mem_digitBytes n x (by rw [he]; exact List.mem_cons_of_mem b hx)
    rw [he, List.cons_append]
    unfold skipNumber
    simp only [hb0, hb, if_false, if_true]
    rw [List.dropWhile_append_of_pos hd, dropWhile_isDigit hr, skipAfterWhole_of_ends hr]

/-! ## Single values -/

/-- A byte that starts a word, number or string. -/
def StartsScalar (b : UInt8) : Prop := isSpace b = false ∧ b ≠ 0x5B ∧ b ≠ 0x7B ∧ b ≠ 0x5D

theorem startsScalar_of_isDigit {b : UInt8} (h : isDigit b = true) : StartsScalar b := by
  refine ⟨isSpace_of_isDigit h, ?_, ?_, ?_⟩ <;> (rintro rfl; exact absurd h (by decide))

theorem skipSpace_cons {b : UInt8} (h : isSpace b = false) (bytes : Bytes) :
    skipSpace (b :: bytes) = b :: bytes := by
  simp [skipSpace, h]

theorem skipStart_scalar {b : UInt8} (h : StartsScalar b) (stack : List Bool) {bytes rest : Bytes}
    (hs : skipScalar b bytes = .value () rest) :
    skipStart stack b bytes = .value (.commaOrEnd, stack) rest := by
  obtain ⟨_, h1, h2, _⟩ := h
  unfold skipStart
  simp only [h1, h2, if_false, hs]

theorem skipFrom_done (x : UInt8) (budget bytes : Bytes) :
    skipFrom .commaOrEnd [] (x :: budget) bytes = .value () bytes := rfl

theorem skipFrom_step {awaits awaits' : Awaits} {stack stack' : List Bool} {b : UInt8}
    {bytes rest : Bytes} (x : UInt8) (budget : Bytes) (hb : isSpace b = false)
    (ha : ¬ (awaits = .commaOrEnd ∧ stack = []))
    (h : skipStep awaits stack b bytes = .value (awaits', stack') rest) :
    skipFrom awaits stack (x :: budget) (b :: bytes) = skipFrom awaits' stack' budget rest := by
  rw [skipFrom.eq_def]
  simp only [skipSpace_cons hb]
  split
  · exact absurd ⟨rfl, rfl⟩ ha
  · contradiction
  · rename_i heq
    cases heq
    rw [h]

theorem skipValue_scalar {b : UInt8} (h : StartsScalar b) {bytes rest : Bytes}
    (hs : skipScalar b bytes = .value () rest) : skipValue (b :: bytes) = .value () rest := by
  have hstep : skipStep .value [] b bytes = .value (.commaOrEnd, []) rest :=
    skipStart_scalar h [] hs
  unfold skipValue
  rw [skipFrom_step 0 _ h.1 (by simp) hstep, skipFrom_done]

theorem skipValue_text (s : String) (rest : Bytes) :
    skipValue (utf8 (text (.string s)) ++ rest) = .value () rest := by
  rw [text, utf8_quote, List.cons_append]
  exact skipValue_scalar ⟨by decide, by decide, by decide, by decide⟩ (skipString_body s rest)

theorem skipValue_number (n : Int) {rest : Bytes} (hr : Ends rest) :
    skipValue (utf8 (text (.number n)) ++ rest) = .value () rest := by
  rw [text]
  cases n with
  | ofNat n =>
    obtain ⟨b, ds, he, hb⟩ := digitBytes_eq_cons_digit n
    have hskip := skipNumber_digitBytes n hr
    rw [he, List.cons_append] at hskip
    rw [utf8_ofNat, he, List.cons_append]
    refine skipValue_scalar (startsScalar_of_isDigit hb) ?_
    have hne : ∀ c, isDigit c = false → b ≠ c := fun c hc h => by rw [h, hc] at hb; cases hb
    unfold skipScalar
    simp only [hne 0x22 rfl, hne 0x6E rfl, hne 0x74 rfl, hne 0x66 rfl, hne 0x2D rfl, hb, if_false,
      if_true, hskip]
  | negSucc n =>
    rw [utf8_negSucc, List.cons_append]
    refine skipValue_scalar ⟨by decide, by decide, by decide, by decide⟩ ?_
    exact skipNumber_digitBytes (n + 1) hr

/-! ## Lists of texts -/

theorem skipFrom_text (s : String) (x : UInt8) (budget rest : Bytes) :
    skipFrom .value [false] (x :: budget) (utf8 (quote s) ++ rest) =
      skipFrom .commaOrEnd [false] budget rest := by
  rw [utf8_quote, List.cons_append]
  refine skipFrom_step x budget (by decide) (by simp) ?_
  exact skipStart_scalar ⟨by decide, by decide, by decide, by decide⟩ [false]
    (skipString_body s rest)

theorem skipStep_bracket (rest : Bytes) :
    skipStep .commaOrEnd [false] 0x5D rest = .value (.commaOrEnd, []) rest := rfl

theorem skipStep_comma (rest : Bytes) :
    skipStep .commaOrEnd [false] 0x2C rest = .value (.value, [false]) rest := rfl

theorem skipFrom_moreTexts (xs : List String) (budget rest : Bytes)
    (hl : 2 * xs.length + 1 < budget.length) :
    skipFrom .commaOrEnd [false] budget (moreTexts xs ++ 0x5D :: rest) = .value () rest := by
  induction xs generalizing budget with
  | nil =>
    obtain _ | ⟨a, _ | ⟨b, budget⟩⟩ := budget
    · simp at hl
    · simp at hl
    · rw [moreTexts, List.flatMap_nil, List.nil_append,
        skipFrom_step a (b :: budget) (by decide) (by simp) (skipStep_bracket rest), skipFrom_done]
  | cons s xs ih =>
    obtain _ | ⟨a, _ | ⟨b, budget⟩⟩ := budget
    · simp at hl
    · simp at hl
    · have he : moreTexts (s :: xs) ++ 0x5D :: rest =
          0x2C :: (utf8 (quote s) ++ (moreTexts xs ++ 0x5D :: rest)) := by
        simp only [moreTexts, List.flatMap_cons, List.cons_append, List.append_assoc]
      rw [he, skipFrom_step a (b :: budget) (by decide) (by simp) (skipStep_comma _), skipFrom_text]
      exact ih budget (by simp only [List.length_cons] at hl; omega)

theorem skipFrom_texts (xs : List String) (x y : UInt8) (budget rest : Bytes)
    (hl : 2 * xs.length < budget.length + 2) :
    skipFrom .firstOrEnd [false] (x :: y :: budget)
      (utf8 (itemsText (xs.map .string)) ++ 0x5D :: rest) = .value () rest := by
  cases xs with
  | nil =>
    have hstep : skipStep .firstOrEnd [false] 0x5D rest = .value (.commaOrEnd, []) rest := rfl
    have he : utf8 (itemsText (([] : List String).map .string)) = [] := rfl
    rw [he, List.nil_append, skipFrom_step x (y :: budget) (by decide) (by simp) hstep,
      skipFrom_done]
  | cons s xs =>
    have hstep : skipStep .firstOrEnd [false] 0x22 (bodyBytes s ++ (moreTexts xs ++ 0x5D :: rest)) =
        .value (.commaOrEnd, [false]) (moreTexts xs ++ 0x5D :: rest) :=
      have hs : skipScalar 0x22 (bodyBytes s ++ (moreTexts xs ++ 0x5D :: rest)) =
          .value () (moreTexts xs ++ 0x5D :: rest) := skipString_body s _
      skipStart_scalar ⟨by decide, by decide, by decide, by decide⟩ [false] hs
    rw [utf8_itemsText, List.append_assoc, utf8_quote, List.cons_append,
      skipFrom_step x (y :: budget) (by decide) (by simp) hstep]
    exact skipFrom_moreTexts xs (y :: budget) rest
      (by simp only [List.length_cons] at hl ⊢; omega)

theorem two_mul_length_le_moreTexts (xs : List String) :
    2 * xs.length ≤ (moreTexts xs).length := by
  induction xs with
  | nil => exact Nat.le_refl _
  | cons x xs ih =>
    unfold moreTexts at ih ⊢
    rw [List.flatMap_cons, utf8_quote]
    simp only [List.length_append, List.length_cons]
    omega

theorem skipValue_texts (xs : List String) (rest : Bytes) :
    skipValue (utf8 (text (.array (xs.map .string))) ++ rest) = .value () rest := by
  have hstep : ∀ r, skipStep .value [] 0x5B r = .value (.firstOrEnd, [false]) r := fun _ => rfl
  unfold skipValue
  rw [utf8_array, List.cons_append, skipFrom_step 0 _ (by decide) (by simp) (hstep _),
    List.append_assoc, List.singleton_append]
  cases xs with
  | nil => rfl
  | cons s xs =>
    have hlen := two_mul_length_le_moreTexts xs
    have hq : utf8 (itemsText ((s :: xs).map .string)) =
        0x22 :: (bodyBytes s ++ moreTexts xs) := by
      rw [utf8_itemsText, utf8_quote, List.cons_append]
    have hbody : 1 ≤ (bodyBytes s).length := by
      unfold bodyBytes
      simp only [List.length_append, List.length_singleton]
      omega
    obtain ⟨y, r, hy⟩ : ∃ y r, utf8 (itemsText ((s :: xs).map .string)) ++ 0x5D :: rest = y :: r ∧
        2 * (s :: xs).length < r.length + 2 := by
      refine ⟨_, _, by rw [hq, List.cons_append], ?_⟩
      simp only [List.length_cons, List.length_append]
      omega
    have := skipFrom_texts (s :: xs) 0x5B y r rest hy.2
    rw [hy.1] at this ⊢
    exact this

/-! ## Any value -/

/-- A text is read as any value. -/
theorem readAny_text (depth : Nat) (s : String) (rest : Bytes) :
    readAny (depth + 2) (utf8 (text (.string s)) ++ rest) = .value (.string s) rest := by
  have hread : ∀ bytes, readAny (depth + 2) (0x22 :: bytes) =
      (do pure (.string (← readStringBody)) : Reader Json) bytes := by
    intro bytes
    unfold readAny readAnyWith
    rw [readBy_cons _ (by decide) (by rfl)]
    rfl
  rw [text, utf8_quote, List.cons_append, hread,
    Reader.bind_of_value _ (readStringBody_body s rest)]
  rfl

/-- A number of 64 bits that is not negative is read as any value. -/
theorem readAny_number (depth : Nat) {n : Nat} (hn : n ≤ maxWhole) {rest : Bytes} (hr : Ends rest) :
    readAny (depth + 2) (utf8 (text (.number n)) ++ rest) = .value (.number n) rest := by
  obtain ⟨b, ds, he, hb⟩ := digitBytes_eq_cons_digit n
  have hne : ∀ c, isDigit c = false → b ≠ c := fun c hc h => by rw [h, hc] at hb; cases hb
  have hnum : readNumber true (b :: (ds ++ rest)) = .value (.whole n) rest := by
    rw [← List.cons_append, ← he, readNumber_digitBytes true hn hr,
      readAfterWhole_of_ends true n hr, if_pos rfl]
  have hread : readAny (depth + 2) (b :: (ds ++ rest)) = readAnyNumber (b :: (ds ++ rest)) := by
    unfold readAny readAnyWith
    refine readBy_cons _ (isSpace_of_isDigit hb) ?_
    simp only [hne 0x22 rfl, hne 0x6E rfl, hne 0x74 rfl, hne 0x66 rfl, hb, if_false, Bool.or_true,
      if_true]
  have hutf : utf8 (text (.number n)) = digitBytes n := by
    rw [text]
    exact utf8_ofNat n
  rw [hutf, he, List.cons_append, hread]
  unfold readAnyNumber
  split
  · rename_i heq
    exact absurd (List.cons.inj heq).1 (hne 0x2D rfl)
  · simp only [hnum]

end SignIn.Json
