-- Numbers in decimal read back: the text that is written for a number is
-- read as that number, as long as it lies within the bound, and so is every
-- other numeral of it.
import Mathlib.Data.Nat.Digits.Defs
import SignIn.Text.Decimal

namespace SignIn.Text.Decimal

theorem digit?_digitChar {d : Nat} (h : d < 10) : digit? (Nat.digitChar d) = some d := by
  have : ∀ d < 10, digit? (Nat.digitChar d) = some d := by decide
  exact this d h

theorem readDigits_append (value : Nat) (front rest : List Char) :
    readDigits value (front ++ rest) =
      (readDigits value front).bind fun v => readDigits v rest := by
  induction front generalizing value with
  | nil => rfl
  | cons c front ih =>
    rw [List.cons_append, readDigits, readDigits]
    cases digit? c with
    | none => rfl
    | some d => exact ih _

theorem readDigits_digits (n : Nat) : readDigits 0 (digits n) = some n := by
  induction n using Nat.strongRecOn with
  | _ n ih =>
    unfold digits at ih ⊢
    by_cases h : n < 10
    · rw [Nat.toDigits_of_lt_base h, readDigits, digit?_digitChar h]
      simp [readDigits]
    · have hm : n % 10 < 10 := Nat.mod_lt _ (by decide)
      rw [Nat.toDigits_of_base_le (by decide) (by omega), readDigits_append, ih _ (by omega)]
      simp only [Option.bind_some, readDigits, digit?_digitChar hm, Option.some.injEq]
      omega

theorem parseNat?_ofNat {n high : Nat} (h : n ≤ high) : parseNat? high (ofNat n) = some n := by
  have hread := readDigits_digits n
  have hlist : (ofNat n).toList = digits n := String.toList_ofList
  unfold parseNat?
  rw [hlist]
  cases hd : digits n with
  | nil => exact absurd hd Nat.toDigits_ne_nil
  | cons c r =>
    rw [hd] at hread
    -- what is written begins with a digit, never with a sign
    have hc : c ≠ '+' := by
      rintro rfl
      rw [readDigits, show digit? '+' = none from rfl] at hread
      cases hread
    split
    · rename_i he
      exact absurd (List.cons.inj he).1 hc
    · change (readDigits 0 (c :: r)).bind _ = _
      rw [hread, Option.bind_some, if_pos h]

/-! ## Runs of digits -/

theorem digit?_eq_some {c : Char} {d : Nat} (h : digit? c = some d) :
    d < 10 ∧ c = Nat.digitChar d := by
  unfold digit? at h
  split at h
  · rename_i hc
    simp only [Bool.and_eq_true, decide_eq_true_eq, Char.le_def] at hc
    have hlow : 48 ≤ c.toNat := hc.1
    have hhigh : c.toNat ≤ 57 := hc.2
    have hd : c.toNat - 48 = d := Option.some.inj h
    have hlt : d < 10 := by omega
    have hchar : ∀ d < 10, (Nat.digitChar d).toNat = d + 48 := by decide
    refine ⟨hlt, Char.toNat_inj.1 ?_⟩
    rw [hchar d hlt]
    omega
  · cases h

/-- Digits only add to a number. -/
theorem le_of_readDigits {n v : Nat} {ds : List Char} (h : readDigits n ds = some v) : n ≤ v := by
  induction ds generalizing n with
  | nil =>
    simp only [readDigits, Option.some.injEq] at h
    omega
  | cons c ds ih =>
    obtain ⟨d, _, h⟩ := Option.bind_eq_some_iff.1 h
    have := ih h
    omega

theorem readDigits_zeros (k : Nat) (ds : List Char) :
    readDigits 0 (List.replicate k '0' ++ ds) = readDigits 0 ds := by
  induction k with
  | zero => rfl
  | succ k ih =>
    rw [List.replicate_succ, List.cons_append, readDigits]
    exact ih

theorem toList_padded (width n : Nat) : (padded width n).toList =
    List.replicate (width - (digits n).length) '0' ++ digits n := String.toList_ofList

theorem readDigits_padded (width n : Nat) : readDigits 0 (padded width n).toList = some n := by
  rw [toList_padded, readDigits_zeros, readDigits_digits]

theorem padded_ne_nil (width n : Nat) : (padded width n).toList ≠ [] := by
  rw [toList_padded]
  intro h
  exact Nat.toDigits_ne_nil (List.append_eq_nil_iff.1 h).2

/-- A number that needs no more digits than the width has exactly so many. -/
theorem length_padded {width n : Nat} (h : n < Nat.pow 10 (width + 1)) :
    (padded (width + 1) n).toList.length = width + 1 := by
  have hle : (digits n).length ≤ width + 1 := by
    unfold digits
    exact (Nat.length_toDigits_le_iff (by decide) (by omega)).2 h
  rw [toList_padded, List.length_append, List.length_replicate]
  omega

/-! ## Numerals -/

/-- The text is the number in decimal: its digits, the highest first and zeros before them at will,
with a plus sign in front or none. -/
def Spells (s : String) (n : Nat) : Prop :=
  ∃ sign ∈ ["", "+"], ∃ ds : List Nat, ds ≠ [] ∧ (∀ d ∈ ds, d < 10) ∧
    s = sign ++ String.ofList (ds.map Nat.digitChar) ∧ n = Nat.ofDigits 10 ds.reverse

theorem readDigits_eq_some_iff {v n : Nat} {cs : List Char} : readDigits v cs = some n ↔
    ∃ ds : List Nat, (∀ d ∈ ds, d < 10) ∧ cs = ds.map Nat.digitChar ∧
      n = v * 10 ^ ds.length + Nat.ofDigits 10 ds.reverse := by
  induction cs generalizing v with
  | nil =>
    constructor
    · rintro h
      cases h
      exact ⟨[], nofun, rfl, by simp⟩
    · rintro ⟨ds, -, hds, rfl⟩
      cases ds with
      | nil => simp [readDigits]
      | cons d ds => cases hds
  | cons c cs ih =>
    have hvalue : ∀ d (ds : List Nat), (v * 10 + d) * 10 ^ ds.length + Nat.ofDigits 10 ds.reverse =
        v * 10 ^ (d :: ds).length + Nat.ofDigits 10 (d :: ds).reverse := by
      intro d ds
      rw [Nat.ofDigits_reverse_cons, List.length_cons, Nat.pow_succ]
      ring
    constructor
    · intro h
      obtain ⟨d, hd, hrest⟩ := Option.bind_eq_some_iff.1 h
      obtain ⟨hlt, rfl⟩ := digit?_eq_some hd
      obtain ⟨ds, hall, rfl, rfl⟩ := ih.1 hrest
      exact ⟨d :: ds, List.forall_mem_cons.2 ⟨hlt, hall⟩, rfl, hvalue d ds⟩
    · rintro ⟨ds, hall, hds, rfl⟩
      cases ds with
      | nil => cases hds
      | cons d ds =>
        cases hds
        obtain ⟨hlt, hall⟩ := List.forall_mem_cons.1 hall
        rw [readDigits, digit?_digitChar hlt, Option.bind_some]
        exact ih.2 ⟨ds, hall, rfl, (hvalue d ds).symm⟩

theorem ofDigits?_eq_some_iff {n : Nat} {cs : List Char} : ofDigits? cs = some n ↔
    ∃ ds : List Nat, ds ≠ [] ∧ (∀ d ∈ ds, d < 10) ∧ cs = ds.map Nat.digitChar ∧
      n = Nat.ofDigits 10 ds.reverse := by
  cases cs with
  | nil => simp [ofDigits?]
  | cons c cs =>
    rw [ofDigits?, readDigits_eq_some_iff]
    constructor
    · rintro ⟨ds, hall, hds, rfl⟩
      refine ⟨ds, ?_, hall, hds, by simp⟩
      rintro rfl
      cases hds
    · rintro ⟨ds, -, hall, hds, rfl⟩
      exact ⟨ds, hall, hds, by simp⟩

theorem digitChars_ne_plus {ds : List Nat} (h : ∀ d ∈ ds, d < 10) (r : List Char) :
    ds.map Nat.digitChar ≠ '+' :: r := by
  intro hplus
  cases ds with
  | nil => cases hplus
  | cons d ds =>
    have hread := digit?_digitChar (h d (.head _))
    rw [(List.cons.inj hplus).1] at hread
    cases hread

/-- What stands behind a plus sign, or the whole text where there is none. -/
def unsigned : List Char → List Char
  | '+' :: r => r
  | cs => cs

theorem spells_iff {s : String} {n : Nat} :
    Spells s n ↔ ofDigits? (unsigned s.toList) = some n := by
  rw [ofDigits?_eq_some_iff]
  constructor
  · rintro ⟨sign, hsign, ds, hne, hall, rfl, hn⟩
    refine ⟨ds, hne, hall, ?_, hn⟩
    simp only [List.mem_cons, List.not_mem_nil, or_false] at hsign
    obtain rfl | rfl := hsign
    · simp only [String.toList_append, String.toList_empty, String.toList_ofList, List.nil_append]
      unfold unsigned
      split
      · rename_i r hplus
        exact absurd hplus (digitChars_ne_plus hall r)
      · rfl
    · simp [unsigned]
  · rintro ⟨ds, hne, hall, hds, hn⟩
    unfold unsigned at hds
    split at hds
    · rename_i r hplus
      refine ⟨"+", by simp, ds, hne, hall, String.toList_injective ?_, hn⟩
      simp [hplus, hds]
    · refine ⟨"", by simp, ds, hne, hall, String.toList_injective ?_, hn⟩
      simp [hds]

/-- What spells a number is read as that number, if it is not too great. Nothing else is read. -/
theorem parseNat?_eq_some_iff {high n : Nat} {s : String} :
    parseNat? high s = some n ↔ Spells s n ∧ n ≤ high := by
  rw [spells_iff]
  change ((ofDigits? (unsigned s.toList)).bind fun n => if n ≤ high then some n else none) =
    some n ↔ _
  cases ofDigits? (unsigned s.toList) with
  | none => simp
  | some m =>
    simp only [Option.bind_some, Option.some.injEq]
    split <;> simp <;> omega

end SignIn.Text.Decimal
