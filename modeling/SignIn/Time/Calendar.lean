-- The Gregorian calendar, carried on before its introduction: days of a year,
-- day numbers, weekdays and weeks, and the dates that can be held.
import SignIn.Text.Decimal

namespace SignIn.Time

/-- Every fourth year is a leap year, of the hundreds every fourth only. -/
def isLeap (year : Int) : Bool :=
  year % 4 == 0 && (year % 100 != 0 || year % 400 == 0)

/-- The lengths of the months of a year. -/
def monthLengths (year : Int) : List Nat :=
  [31, if isLeap year then 29 else 28, 31, 30, 31, 30, 31, 31, 30, 31, 30, 31]

/-- The days of a month; there are none in a month that does not exist. -/
def daysInMonth (year : Int) (month : Nat) : Nat :=
  if month = 0 then 0 else (monthLengths year).getD (month - 1) 0

/-- The days of a year. -/
def daysInYear (year : Int) : Nat := if isLeap year then 366 else 365

/-- The days from 1 January of year 1 to 1 January of the given year. -/
def daysBeforeYear (year : Int) : Int :=
  let y := year - 1
  365 * y + y / 4 - y / 100 + y / 400

/-- The days from 1 January to the first of the month. -/
def daysBeforeMonth (year : Int) (month : Nat) : Nat :=
  ((monthLengths year).take (month - 1)).foldl (· + ·) 0

/-- The day number of 1 January 1970, counted from 1 January of year 1. -/
def epochDay : Int := 719162

/-! ## Dates -/

/-- The years that can be held. -/
def firstYear : Int := -262143
def lastYear : Int := 262142

/-- A day of the calendar. -/
structure Date where
  year : Int
  month : Nat
  day : Nat
  year_mem : firstYear ≤ year ∧ year ≤ lastYear
  month_mem : 1 ≤ month ∧ month ≤ 12
  day_mem : 1 ≤ day ∧ day ≤ daysInMonth year month
  deriving DecidableEq

/-- The day with these parts, if the calendar has it. -/
def Date.ofParts? (year : Int) (month day : Nat) : Option Date :=
  if hy : firstYear ≤ year ∧ year ≤ lastYear then
    if hm : 1 ≤ month ∧ month ≤ 12 then
      if hd : 1 ≤ day ∧ day ≤ daysInMonth year month then
        some ⟨year, month, day, hy, hm, hd⟩
      else none
    else none
  else none

/-- The position of the day in its year, counted from one. -/
def Date.dayOfYear (d : Date) : Nat := daysBeforeMonth d.year d.month + d.day

/-- The days from 1 January 1970 to the date. -/
def Date.toDays (d : Date) : Int := daysBeforeYear d.year + d.dayOfYear - 1 - epochDay

/-- The month and the day in it of the day with the given position in its year: the months are taken
off from the first on. -/
def monthDay (month rest : Nat) : List Nat → Nat × Nat
  | [] => (month, rest)
  | n :: later => if rest ≤ n then (month, rest) else monthDay (month + 1) (rest - n) later

/-- The day at a position of a year, counted from one. -/
def Date.ofDayOfYear? (year : Int) (position : Nat) : Option Date :=
  if position = 0 ∨ daysInYear year < position then none
  else
    let (month, day) := monthDay 1 position (monthLengths year)
    Date.ofParts? year month day

/-- The year of the day that lies `n` days after 1 January of year 1. -/
def yearOfDay (n : Int) : Int :=
  let guess := n * 400 / 146097 + 1
  if n < daysBeforeYear guess then guess - 1
  else if daysBeforeYear (guess + 1) ≤ n then guess + 1
  else guess

/-- Year, month and day of the day that lies `days` days after 1 January 1970. -/
def partsOfDays (days : Int) : Int × Nat × Nat :=
  let n := days + epochDay
  let year := yearOfDay n
  let (month, day) := monthDay 1 ((n - daysBeforeYear year).toNat + 1) (monthLengths year)
  (year, month, day)

/-- The day that lies `days` days after 1 January 1970. -/
def Date.ofDays? (days : Int) : Option Date :=
  let (year, month, day) := partsOfDays days
  Date.ofParts? year month day

/-! ## Weeks -/

/-- The weekday of a day number, counted from Monday, which is zero. -/
def weekdayOfDays (days : Int) : Nat := ((days + 3) % 7).toNat

/-- The weekday, counted from Monday, which is zero. -/
def Date.weekday (d : Date) : Nat := weekdayOfDays d.toDays

/-- The days from weekday `start` on to weekday `day`. -/
def daysSince (day start : Nat) : Nat := (day + 7 - start) % 7

/-- The number of the week in the year when weeks start at `start`; the days before the first such
weekday are in week zero. -/
def Date.weekFrom (d : Date) (start : Nat) : Int :=
  ((d.dayOfYear : Int) - daysSince d.weekday start + 6) / 7

/-- The Monday of week one: the week that holds 4 January. -/
def firstMonday (year : Int) : Int :=
  let fourth := daysBeforeYear year + 3 - epochDay
  fourth - weekdayOfDays fourth

/-- The year that the day's week belongs to, which has its Thursday. -/
def Date.weekYear (d : Date) : Int :=
  if d.toDays < firstMonday d.year then d.year - 1
  else if firstMonday (d.year + 1) ≤ d.toDays then d.year + 1
  else d.year

/-- The number of the day's week in that year. -/
def Date.weekOfYear (d : Date) : Int := (d.toDays - firstMonday d.weekYear) / 7 + 1

/-- The number of weeks of a year. -/
def weeksInYear (year : Int) : Int := (firstMonday (year + 1) - firstMonday year) / 7

/-- The day with a weekday in a week, if the year has that week. -/
def Date.ofWeek? (year week : Int) (weekday : Nat) : Option Date :=
  if week < 1 ∨ weeksInYear year < week then none
  else Date.ofDays? (firstMonday year + (week - 1) * 7 + weekday)

/-! ## Text -/

/-- Four digits; a year that has no four digits carries its sign. -/
def yearText (year : Int) : String :=
  if 0 ≤ year ∧ year ≤ 9999 then Text.Decimal.padded 4 year.toNat
  else if year < 0 then "-" ++ Text.Decimal.padded 4 year.natAbs
  else "+" ++ Text.Decimal.padded 4 year.natAbs

/-- Year, month and day with dashes between them. -/
def partsText (year : Int) (month day : Nat) : String :=
  yearText year ++ "-" ++ Text.Decimal.padded 2 month ++ "-" ++ Text.Decimal.padded 2 day

/-- The date as text. -/
def Date.text (d : Date) : String := partsText d.year d.month d.day

end SignIn.Time
