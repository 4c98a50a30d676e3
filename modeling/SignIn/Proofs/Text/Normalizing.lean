-- Normalizing a text twice is normalizing it once: lower case is settled, and
-- no end of a trimmed text becomes blank by it.
import SignIn.Text.Lowercase

namespace SignIn.Text

/-! ## The table of images -/

/-- No image of the one run lies in the other run. -/
def LowerRun.misses (r r' : LowerRun) : Bool :=
  r.apply r.last < r'.first || r'.last < r.image ||
    ((r.stride == 2 || r.first == r.last) && r'.stride == 2 && (r.image + r'.first) % 2 == 1)

/-- The images of the run are characters, neither blank nor the dotted capital I, and in no run. -/
def LowerRun.settles (r : LowerRun) : Bool :=
  lowerRuns.all r.misses && blanks.all (fun b => r.apply r.last < b.first || b.last < r.image) &&
    (r.apply r.last < 0x130 || 0x130 < r.image) &&
    (r.apply r.last < 0xD800 || (0xDFFF < r.image && r.apply r.last < 0x110000))

theorem lowerRuns_settle : lowerRuns.all LowerRun.settles = true := by decide +kernel

theorem LowerRun.contains_iff (r : LowerRun) (n : Nat) :
    r.contains n = true ↔ r.first ≤ n ∧ n ≤ r.last ∧ (n - r.first) % r.stride = 0 := by
  simp [contains, and_assoc]

theorem LowerRun.not_contains_of_misses {r r' : LowerRun} {n : Nat} (h : r.misses r' = true)
    (hn : r.contains n = true) : r'.contains (r.apply n) = false := by
  obtain ⟨h₁, h₂, h₃⟩ := (r.contains_iff n).1 hn
  refine Bool.eq_false_iff.2 fun hc => ?_
  obtain ⟨h₄, h₅, h₆⟩ := (r'.contains_iff _).1 hc
  simp only [misses, Bool.or_eq_true, Bool.and_eq_true, decide_eq_true_eq, beq_iff_eq] at h
  unfold apply at h h₄ h₅ h₆
  rcases h with (h | h) | ⟨⟨hs, hs'⟩, h⟩
  · omega
  · omega
  · rw [hs'] at h₆
    rcases hs with hs | hs
    · rw [hs] at h₃
      omega
    · omega

/-! ## Settled characters -/

/-- A character that is its own image wherever it stands. -/
structure IsSettled (c : Char) : Prop where
  lower : lowerChar c = [c]
  notSigma : c ≠ capitalSigma

theorem toLower_eq_self {c : Char} (h : c.toNat < 0x41 ∨ 0x5A < c.toNat) : c.toLower = c := by
  unfold Char.toLower
  rw [dif_neg]
  rintro ⟨h₁, h₂⟩
  have h₁ : 0x41 ≤ c.toNat := h₁
  have h₂ : c.toNat ≤ 0x5A := h₂
  omega

/-- A character in no run is its own image, but for the dotted capital I. -/
theorem isSettled_of_no_run {c : Char} (hdotted : c ≠ 'İ')
    (h : ∀ r ∈ lowerRuns, r.contains c.toNat = false) : IsSettled c := by
  have hcapital := h ⟨0x41, 0x5A, 1, 0x61⟩ (by decide)
  have hsigma := h ⟨0x3A3, 0x3AB, 1, 0x3C3⟩ (by decide +kernel)
  refine ⟨?_, ?_⟩
  · unfold lowerChar
    split
    · rw [toLower_eq_self]
      by_cases hle : 0x41 ≤ c.toNat ∧ c.toNat ≤ 0x5A
      · simp [LowerRun.contains, hle.1, hle.2, Nat.mod_one] at hcapital
      · omega
    · unfold lowerByTable
      rw [if_neg hdotted, List.find?_eq_none.2 fun r hr => by rw [h r hr]; exact Bool.false_ne_true]
  · rintro rfl
    exact absurd hsigma (by decide)

theorem toNat_ofNat {n : Nat} (h : n < 0xD800 ∨ 0xDFFF < n ∧ n < 0x110000) :
    (Char.ofNat n).toNat = n := by
  have hv : n.isValidChar := h
  unfold Char.ofNat
  rw [dif_pos hv]
  rfl

/-- The image of a character in a run is settled, and it is not blank. -/
theorem isSettled_apply {r : LowerRun} {n : Nat} (hr : r ∈ lowerRuns) (hn : r.contains n = true) :
    IsSettled (Char.ofNat (r.apply n)) ∧ isBlank (Char.ofNat (r.apply n)) = false := by
  have hs := List.all_eq_true.1 lowerRuns_settle r hr
  unfold LowerRun.settles at hs
  simp only [Bool.and_eq_true, Bool.or_eq_true, decide_eq_true_eq, List.all_eq_true] at hs
  obtain ⟨⟨⟨hmisses, hblanks⟩, hdotted⟩, hvalid⟩ := hs
  have hbounds : r.image ≤ r.apply n ∧ r.apply n ≤ r.apply r.last := by
    simp only [LowerRun.contains, Bool.and_eq_true, decide_eq_true_eq] at hn
    unfold LowerRun.apply
    omega
  have hto : (Char.ofNat (r.apply n)).toNat = r.apply n := toNat_ofNat (by omega)
  refine ⟨isSettled_of_no_run (fun he => ?_) fun r' hr' => ?_, ?_⟩
  · rw [he] at hto
    have : (0x130 : Nat) = r.apply n := hto
    omega
  · rw [hto]
    exact LowerRun.not_contains_of_misses (hmisses r' hr') hn
  · refine Bool.eq_false_iff.2 fun hb => ?_
    obtain ⟨b, hb, h₁, h₂⟩ := (CharClass.contains_iff _ _).1 hb
    rw [hto] at h₁ h₂
    rcases hblanks b hb with h | h <;> omega

/-- Of the characters of ASCII this can be seen one by one. -/
theorem isSettled_toLower {c : Char} (h : c.toNat < 0x80) :
    IsSettled c.toLower ∧ (isBlank c = false → isBlank c.toLower = false) := by
  have hall : (List.range 0x80).all (fun n => decide (lowerChar (Char.ofNat n).toLower =
      [(Char.ofNat n).toLower] ∧ (Char.ofNat n).toLower ≠ capitalSigma ∧
      (isBlank (Char.ofNat n) = false → isBlank (Char.ofNat n).toLower = false))) = true := by
    decide +kernel
  have hc := of_decide_eq_true (List.all_eq_true.1 hall c.toNat (List.mem_range.2 h))
  rw [Char.ofNat_toNat] at hc
  exact ⟨⟨hc.1, hc.2.1⟩, hc.2.2⟩

theorem isSettled_lowerAt {before after : List Char} {c d : Char}
    (h : d ∈ lowerAt before c after) :
    IsSettled d ∧ (isBlank c = false → isBlank d = false) := by
  have hsmall : ∀ d ∈ ['ς', 'σ', 'i', '\u0307'], IsSettled d ∧ isBlank d = false := by
    intro d hd
    have hall : ['ς', 'σ', 'i', '\u0307'].all (fun d =>
        decide (lowerChar d = [d] ∧ d ≠ capitalSigma ∧ isBlank d = false)) = true := by
      decide +kernel
    have hc := of_decide_eq_true (List.all_eq_true.1 hall d hd)
    exact ⟨⟨hc.1, hc.2.1⟩, hc.2.2⟩
  unfold lowerAt at h
  split at h
  · have hd : d ∈ ['ς', 'σ', 'i', '\u0307'] := by
      split at h <;> rw [List.mem_singleton.1 h] <;> decide
    exact ⟨(hsmall d hd).1, fun _ => (hsmall d hd).2⟩
  · rename_i hsigma
    unfold lowerChar at h
    split at h
    · rw [List.mem_singleton.1 h]
      exact isSettled_toLower ‹_›
    · unfold lowerByTable at h
      split at h
      · have hd : d ∈ ['ς', 'σ', 'i', '\u0307'] := List.mem_cons_of_mem _ (List.mem_cons_of_mem _ h)
        exact ⟨(hsmall d hd).1, fun _ => (hsmall d hd).2⟩
      · rename_i hdotted
        split at h
        · rename_i r hr
          have hcontains : r.contains c.toNat = true := by
            have h := List.find?_some hr
            exact h
          have happly := isSettled_apply (List.mem_of_find?_eq_some hr) hcontains
          rw [List.mem_singleton.1 h]
          exact ⟨happly.1, fun _ => happly.2⟩
        · rename_i hnone
          rw [List.mem_singleton.1 h]
          refine ⟨isSettled_of_no_run hdotted fun r hr => ?_, fun hb => hb⟩
          exact Bool.eq_false_iff.2 (List.find?_eq_none.1 hnone r hr)

theorem lowerAt_ne_nil (before after : List Char) (c : Char) : lowerAt before c after ≠ [] := by
  unfold lowerAt lowerChar lowerByTable
  repeat' split
  all_goals exact List.cons_ne_nil _ _

/-! ## Lower case twice -/

theorem isSettled_of_mem_lowerImages {before cs : List Char} {d : Char}
    (h : d ∈ lowerImages before cs) : IsSettled d := by
  induction cs generalizing before with
  | nil => cases h
  | cons c cs ih =>
    rcases List.mem_append.1 h with h | h
    · exact (isSettled_lowerAt h).1
    · exact ih h

theorem lowerImages_of_isSettled {before cs : List Char} (h : ∀ c ∈ cs, IsSettled c) :
    lowerImages before cs = cs := by
  induction cs generalizing before with
  | nil => rfl
  | cons c cs ih =>
    have hc := h c (.head _)
    rw [lowerImages, ih fun d hd => h d (.tail _ hd), lowerAt, if_neg hc.notSigma, hc.lower]
    rfl

theorem lowercase_lowercase (s : String) : lowercase (lowercase s) = lowercase s := by
  apply String.toList_injective
  rw [toList_lowercase, toList_lowercase]
  exact lowerImages_of_isSettled fun _ hc => isSettled_of_mem_lowerImages hc

/-! ## Ends that are not blank -/

/-- Neither the first character nor the last one is blank. -/
structure IsTrimmed (cs : List Char) : Prop where
  first : ∀ c, cs.head? = some c → isBlank c = false
  last : ∀ c, cs.getLast? = some c → isBlank c = false

theorem IsTrimmed.trim_eq {s : String} (h : IsTrimmed s.toList) : trim s = s := by
  have hdrop : ∀ cs : List Char, (∀ c, cs.head? = some c → isBlank c = false) →
      cs.dropWhile isBlank = cs := by
    intro cs hcs
    cases cs with
    | nil => rfl
    | cons c cs =>
      rw [List.dropWhile_cons, hcs c rfl]
      rfl
  have hlast : ∀ c, s.toList.reverse.head? = some c → isBlank c = false := by
    intro c hc
    rw [List.head?_reverse] at hc
    exact h.last c hc
  unfold trim trimEnd trimStart
  rw [hdrop _ h.first, hdrop _ hlast, List.reverse_reverse, String.ofList_toList]

theorem isTrimmed_trim (s : String) : IsTrimmed (trim s).toList := by
  rw [toList_trim]
  have hhead : ∀ (cs : List Char) c, (cs.dropWhile isBlank).head? = some c → isBlank c = false := by
    intro cs c hc
    have h := List.head?_dropWhile_not isBlank cs
    rw [hc] at h
    exact Bool.eq_false_iff.2 fun hb => by simp [hb] at h
  refine ⟨fun c hc => ?_, fun c hc => ?_⟩
  · -- What is left behind is the beginning of what was there.
    have hpre : trimEnd (trimStart s.toList) <+: trimStart s.toList := by
      unfold trimEnd
      rw [← List.reverse_suffix, List.reverse_reverse]
      exact List.dropWhile_suffix _
    obtain ⟨rest, hrest⟩ := hpre
    refine hhead s.toList c ?_
    change (trimStart s.toList).head? = some c
    rw [← hrest, List.head?_append, hc]
    rfl
  · unfold trimEnd at hc
    rw [List.getLast?_reverse] at hc
    exact hhead _ c hc

theorem lowerImages_append (before cs ds : List Char) : ∃ images,
    lowerImages before (cs ++ ds) = images ++ lowerImages (cs.reverse ++ before) ds := by
  induction cs generalizing before with
  | nil => exact ⟨[], rfl⟩
  | cons c cs ih =>
    obtain ⟨images, h⟩ := ih (c :: before)
    refine ⟨lowerAt before c (cs ++ ds) ++ images, ?_⟩
    rw [List.cons_append, lowerImages, h, List.append_assoc, List.reverse_cons, List.append_assoc]
    rfl

theorem IsTrimmed.lowercase {s : String} (h : IsTrimmed s.toList) :
    IsTrimmed (lowercase s).toList := by
  rw [toList_lowercase]
  refine ⟨fun d hd => ?_, fun d hd => ?_⟩
  · cases hs : s.toList with
    | nil =>
      rw [hs] at hd
      cases hd
    | cons c cs =>
      obtain ⟨d', images, himages⟩ := List.exists_cons_of_ne_nil (lowerAt_ne_nil [] cs c)
      rw [hs, lowerImages, himages] at hd
      obtain rfl : d' = d := Option.some.inj hd
      have hmem : d' ∈ lowerAt [] c cs := by
        rw [himages]
        exact .head _
      exact (isSettled_lowerAt hmem).2 (h.first c (by rw [hs]; rfl))
  · rcases List.eq_nil_or_concat s.toList with hs | ⟨cs, c, hs⟩
    · rw [hs] at hd
      cases hd
    · rw [List.concat_eq_append] at hs
      obtain ⟨images, himages⟩ := lowerImages_append [] cs [c]
      rw [hs, himages, lowerImages, lowerImages, List.append_nil, List.getLast?_append,
        List.getLast?_eq_some_getLast (lowerAt_ne_nil _ _ c), Option.some_or] at hd
      have hmem := List.getLast_mem (lowerAt_ne_nil (cs.reverse ++ []) [] c)
      rw [Option.some.inj hd] at hmem
      exact (isSettled_lowerAt hmem).2 (h.last c (by rw [hs, List.getLast?_concat]))

/-- What is normalized is normalized for good. -/
theorem normalize_normalize (s : String) : normalize (normalize s) = normalize s := by
  unfold normalize
  rw [((isTrimmed_trim s).lowercase).trim_eq, lowercase_lowercase]

/-- A text of settled characters that are not blank is in normal form. -/
theorem normalize_eq_self {s : String} (h : ∀ c ∈ s.toList, IsSettled c ∧ isBlank c = false) :
    normalize s = s := by
  have htrimmed : IsTrimmed s.toList :=
    ⟨fun c hc => (h c (List.mem_of_mem_head? hc)).2, fun c hc => (h c (List.mem_of_getLast? hc)).2⟩
  unfold normalize
  rw [htrimmed.trim_eq]
  apply String.toList_injective
  rw [toList_lowercase]
  exact lowerImages_of_isSettled fun c hc => (h c hc).1

end SignIn.Text
