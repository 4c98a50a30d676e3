-- Days and their numbers: the parts that a day number is taken apart into are
-- those of the day that has the number.
import SignIn.Time.Instant

namespace SignIn.Time

/-! ## Years -/

theorem daysBeforeYear_succ (year : Int) :
    daysBeforeYear (year + 1) = daysBeforeYear year + daysInYear year := by
  simp only [daysBeforeYear, daysInYear, isLeap]
  by_cases h4 : year % 4 = 0 <;> by_cases h100 : year % 100 = 0 <;>
    by_cases h400 : year % 400 = 0 <;> simp [h4, h100, h400] <;> omega

theorem daysBeforeYear_le {year year' : Int} (h : year ≤ year') :
    daysBeforeYear year ≤ daysBeforeYear year' := by
  rcases Int.lt_or_eq_of_le h with h | rfl
  · simp only [daysBeforeYear]
    omega
  · exact Int.le_refl _

/-- A day lies in the year that is found for it. -/
theorem yearOfDay_bounds (n : Int) :
    daysBeforeYear (yearOfDay n) ≤ n ∧ n < daysBeforeYear (yearOfDay n + 1) := by
  -- The guess is off by one year at most, whichever way the leap years fall.
  have hlow : daysBeforeYear (n * 400 / 146097 + 1 - 1) ≤ n := by
    simp only [daysBeforeYear]
    omega
  have hhigh : n < daysBeforeYear (n * 400 / 146097 + 1 + 1 + 1) := by
    simp only [daysBeforeYear]
    omega
  unfold yearOfDay
  dsimp only
  split
  · rename_i hlater
    exact ⟨hlow, by rwa [Int.sub_add_cancel]⟩
  · split
    · rename_i hearlier
      exact ⟨hearlier, hhigh⟩
    · omega

/-! ## Months -/

/-- The sum of the lengths of some months. -/
def total : List Nat → Nat
  | [] => 0
  | n :: later => n + total later

theorem foldl_add_eq_total (lengths : List Nat) (n : Nat) :
    lengths.foldl (· + ·) n = n + total lengths := by
  induction lengths generalizing n with
  | nil => rfl
  | cons m later ih =>
    rw [List.foldl_cons, ih, total]
    omega

/-- The months are taken off a position in the year up to the month that it lies in. -/
theorem monthDay_spec (lengths : List Nat) (first position : Nat) (h0 : 1 ≤ position)
    (hle : position ≤ total lengths) : ∃ i < lengths.length, ∃ day,
      monthDay first position lengths = (first + i, day) ∧ 1 ≤ day ∧ day ≤ lengths.getD i 0 ∧
        total (lengths.take i) + day = position := by
  induction lengths generalizing first position with
  | nil =>
    simp only [total] at hle
    omega
  | cons n later ih =>
    unfold monthDay
    by_cases hin : position ≤ n
    · exact ⟨0, by simp, position, by simp [hin], h0, by simpa using hin, by simp [total]⟩
    · simp only [total] at hle
      obtain ⟨i, hi, day, he, h1, hday, hsum⟩ := ih (first + 1) (position - n) (by omega) (by omega)
      refine ⟨i + 1, by simpa using hi, day, ?_, h1, by simpa using hday, ?_⟩
      · rw [if_neg hin, he]
        congr 1
        omega
      · simp only [List.take_succ_cons, total]
        omega

theorem total_monthLengths (year : Int) : total (monthLengths year) = daysInYear year := by
  unfold monthLengths daysInYear
  cases isLeap year <;> rfl

theorem daysBeforeMonth_eq (year : Int) (i : Nat) :
    daysBeforeMonth year (1 + i) = total ((monthLengths year).take i) := by
  unfold daysBeforeMonth
  rw [Nat.add_sub_cancel_left, foldl_add_eq_total, Nat.zero_add]

/-! ## Days -/

/-- The days whose year can be held. -/
def IsDay (days : Int) : Prop :=
  daysBeforeYear firstYear ≤ days + epochDay ∧ days + epochDay < daysBeforeYear (lastYear + 1)

/-- The parts of a day number are those of a day with that number. -/
theorem exists_date_of_isDay {days : Int} (h : IsDay days) : ∃ date : Date,
    partsOfDays days = (date.year, date.month, date.day) ∧ date.toDays = days := by
  obtain ⟨hbegin, hend⟩ := yearOfDay_bounds (days + epochDay)
  have hyear : firstYear ≤ yearOfDay (days + epochDay) ∧
      yearOfDay (days + epochDay) ≤ lastYear := by
    obtain ⟨hfirst, hlast⟩ := h
    constructor
    · apply Int.not_lt.1
      intro hearly
      have := daysBeforeYear_le (show yearOfDay (days + epochDay) + 1 ≤ firstYear by omega)
      omega
    · apply Int.not_lt.1
      intro hlate
      have := daysBeforeYear_le (show lastYear + 1 ≤ yearOfDay (days + epochDay) by omega)
      omega
  have hlength := total_monthLengths (yearOfDay (days + epochDay))
  have hsucc := daysBeforeYear_succ (yearOfDay (days + epochDay))
  have hparts : partsOfDays days = (yearOfDay (days + epochDay),
      monthDay 1 ((days + epochDay - daysBeforeYear (yearOfDay (days + epochDay))).toNat + 1)
        (monthLengths (yearOfDay (days + epochDay)))) := rfl
  generalize yearOfDay (days + epochDay) = year at *
  obtain ⟨i, hi, day, he, h1, hday, hsum⟩ := monthDay_spec (monthLengths year) 1
    ((days + epochDay - daysBeforeYear year).toNat + 1) (by omega) (by omega)
  have hi : i < 12 := hi
  have hlen : daysInMonth year (1 + i) = (monthLengths year).getD i 0 := by
    unfold daysInMonth
    rw [if_neg (by omega), Nat.add_sub_cancel_left]
  refine ⟨⟨year, 1 + i, day, hyear, by omega, h1, by rw [hlen]; exact hday⟩, ?_, ?_⟩
  · rw [hparts, he]
  · simp only [Date.toDays, Date.dayOfYear, daysBeforeMonth_eq]
    omega

/-- Every instant lies on a day whose year can be held. -/
theorem isDay_of_instant (t : Instant) : IsDay (t.unixSeconds / 86400) := by
  obtain ⟨nanos, hlow, hhigh⟩ := t
  unfold IsDay Instant.unixSeconds
  simp only [firstNano, lastNano, firstSecond, lastSecond, second] at hlow hhigh ⊢
  simp only [daysBeforeYear, firstYear, lastYear, epochDay]
  omega

end SignIn.Time
