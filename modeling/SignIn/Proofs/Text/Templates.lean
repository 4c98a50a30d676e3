-- Templates read backwards: what has been put for the placeholders of a
-- template can be told from the text that came of it, and there is a text that
-- no value gives.
import SignIn.Text.Template

namespace SignIn.Text.Template

/-! ## Characters -/

/-- The characters before the first placeholder. -/
def leadChars : List Char → List Char
  | '\x7b' :: '\x7d' :: _ => []
  | c :: r => c :: leadChars r
  | [] => []

/-- How many placeholders there are. -/
def countPlaceholders : List Char → Nat
  | '\x7b' :: '\x7d' :: r => countPlaceholders r + 1
  | _ :: r => countPlaceholders r
  | [] => 0

/-- How many characters there are that belong to no placeholder. -/
def countFixed : List Char → Nat
  | '\x7b' :: '\x7d' :: r => countFixed r
  | _ :: r => countFixed r + 1
  | [] => 0

variable {template value : List Char}

theorem length_fillChars (value template : List Char) :
    (fillChars value template).length =
      countFixed template + countPlaceholders template * value.length := by
  fun_induction fillChars value template with
  | case1 r ih =>
    rw [List.length_append, ih, countFixed, countPlaceholders, Nat.succ_mul]
    omega
  | case2 c r hnot ih =>
    have hfixed : countFixed (c :: r) = countFixed r + 1 := by
      rw [countFixed]
      exact hnot
    have hcount : countPlaceholders (c :: r) = countPlaceholders r := by
      rw [countPlaceholders]
      exact hnot
    rw [List.length_cons, ih, hfixed, hcount]
    omega
  | case3 => simp [countFixed, countPlaceholders]

/-- The first value stands behind the characters before the first placeholder. -/
theorem fillChars_eq_lead (h : holdsPlaceholder template = true) (value : List Char) :
    ∃ rest, fillChars value template = leadChars template ++ (value ++ rest) := by
  fun_induction fillChars value template with
  | case1 r ih => exact ⟨_, rfl⟩
  | case2 c r hnot ih =>
    have hr : holdsPlaceholder r = true := by
      rw [holdsPlaceholder] at h
      · exact h
      · exact hnot
    obtain ⟨rest, hrest⟩ := ih hr
    refine ⟨rest, ?_⟩
    rw [hrest, leadChars]
    · rfl
    · exact hnot
  | case3 => cases h

theorem countPlaceholders_pos (h : holdsPlaceholder template = true) :
    0 < countPlaceholders template := by
  fun_induction holdsPlaceholder template with
  | case1 r => exact Nat.succ_pos _
  | case2 c r hnot ih =>
    rw [countPlaceholders]
    · exact ih h
    · exact hnot
  | case3 => cases h

/-- The value that gives the characters, if there is one. -/
def readChars (template filled : List Char) : Option (List Char) :=
  let length := (filled.length - countFixed template) / countPlaceholders template
  let value := (filled.drop (leadChars template).length).take length
  if fillChars value template = filled then some value else none

theorem readChars_fillChars (h : holdsPlaceholder template = true) (value : List Char) :
    readChars template (fillChars value template) = some value := by
  have hlength : ((fillChars value template).length - countFixed template) /
      countPlaceholders template = value.length := by
    rw [length_fillChars, Nat.add_sub_cancel_left]
    exact Nat.mul_div_cancel_left _ (countPlaceholders_pos h)
  have hvalue : ((fillChars value template).drop (leadChars template).length).take
      value.length = value := by
    obtain ⟨rest, hrest⟩ := fillChars_eq_lead h value
    rw [hrest, List.drop_left, List.take_left]
  unfold readChars
  rw [hlength]
  dsimp only
  rw [hvalue, if_pos rfl]

theorem readChars_eq_some_iff (h : holdsPlaceholder template = true) {filled : List Char} :
    readChars template filled = some value ↔ fillChars value template = filled := by
  refine ⟨fun hr => ?_, fun hf => by rw [← hf, readChars_fillChars h]⟩
  unfold readChars at hr
  dsimp only at hr
  split at hr
  · rename_i hfill
    cases hr
    exact hfill
  · cases hr

/-! ## Texts -/

/-- The value that gives the text, if there is one. -/
def read (template filled : String) : Option String :=
  (readChars template.toList filled.toList).map String.ofList

/-- Reading a text is filling the template backwards. -/
theorem read_eq_some_iff {template filled value : String} (h : hasPlaceholder template = true) :
    read template filled = some value ↔ fill template value = filled := by
  unfold read fill
  rw [Option.map_eq_some_iff]
  constructor
  · rintro ⟨chars, hchars, rfl⟩
    rw [String.toList_ofList, (readChars_eq_some_iff h).1 hchars, String.ofList_toList]
  · intro hfill
    refine ⟨value.toList, (readChars_eq_some_iff h).2 ?_, String.ofList_toList⟩
    rw [← hfill, String.toList_ofList]

/-- No two values give the same text. -/
theorem fill_injective {template value value' : String} (h : hasPlaceholder template = true)
    (he : fill template value = fill template value') : value = value' := by
  have hread := (read_eq_some_iff h).2 he
  rw [(read_eq_some_iff h).2 rfl] at hread
  exact (Option.some.inj hread).symm

/-- Two templates that go apart before their first placeholders give no text in common. -/
theorem fill_ne_fill {template template' : String} (h : hasPlaceholder template = true)
    (h' : hasPlaceholder template' = true)
    (hl : ¬ leadChars template.toList <+: leadChars template'.toList)
    (hl' : ¬ leadChars template'.toList <+: leadChars template.toList) (value value' : String) :
    fill template value ≠ fill template' value' := by
  intro he
  have hchars : fillChars value.toList template.toList =
      fillChars value'.toList template'.toList := by
    rw [← toList_fill, ← toList_fill, he]
  obtain ⟨rest, hrest⟩ := fillChars_eq_lead h value.toList
  obtain ⟨rest', hrest'⟩ := fillChars_eq_lead h' value'.toList
  have hp : leadChars template.toList <+: fillChars value.toList template.toList := ⟨_, hrest.symm⟩
  have hp' : leadChars template'.toList <+: fillChars value.toList template.toList :=
    ⟨_, hchars.trans hrest' |>.symm⟩
  rcases List.prefix_or_prefix_of_prefix hp hp' with hpre | hpre
  · exact hl hpre
  · exact hl' hpre

/-! ## Templates without a placeholder -/

/-- A placeholder is an opening brace with the closing one right behind it. -/
theorem holdsPlaceholder_iff {cs : List Char} :
    holdsPlaceholder cs = true ↔ ['\x7b', '\x7d'] <:+: cs := by
  fun_induction holdsPlaceholder cs with
  | case1 r =>
    simp only [true_iff]
    exact ⟨[], r, rfl⟩
  | case2 c r hnot ih =>
    rw [ih, List.infix_cons_iff]
    have hhead : ¬ ['\x7b', '\x7d'] <+: c :: r := by
      rintro ⟨rest, hrest⟩
      simp only [List.cons_append, List.nil_append, List.cons.injEq] at hrest
      exact hnot rest hrest.1.symm hrest.2.symm
    simp [hhead]
  | case3 => simp

theorem hasPlaceholder_iff {template : String} :
    hasPlaceholder template = true ↔ ∃ front back, template = front ++ "\x7b\x7d" ++ back := by
  unfold hasPlaceholder
  rw [holdsPlaceholder_iff]
  constructor
  · rintro ⟨front, back, h⟩
    refine ⟨String.ofList front, String.ofList back, ?_⟩
    apply String.toList_injective
    simp [← h]
  · rintro ⟨front, back, rfl⟩
    exact ⟨front.toList, back.toList, by simp⟩

theorem fillChars_eq_self (h : holdsPlaceholder template = false) (value : List Char) :
    fillChars value template = template := by
  fun_induction fillChars value template with
  | case1 r ih => cases h
  | case2 c r hnot ih =>
    have hr : holdsPlaceholder r = false := by
      rw [holdsPlaceholder] at h
      · exact h
      · exact hnot
    rw [ih hr]
  | case3 => rfl

/-- Different values give different texts exactly where there is a placeholder for them. -/
theorem injective_fill_iff (template : String) :
    Function.Injective (fill template) ↔ hasPlaceholder template = true := by
  constructor
  · intro hinj
    cases hnone : hasPlaceholder template with
    | true => rfl
    | false =>
      have hsame : ∀ value, fill template value = template := by
        intro value
        apply String.toList_injective
        rw [toList_fill, fillChars_eq_self hnone]
      have himpossible : "0" = "1" := hinj (by rw [hsame, hsame])
      exact absurd himpossible (by decide)
  · intro h value value' he
    exact fill_injective h he

end SignIn.Text.Template
