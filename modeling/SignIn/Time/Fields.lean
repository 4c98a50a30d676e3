-- What a text has said about a date so far, and the date that follows from
-- it. A field is said once, or twice with the same value; a date follows when
-- the fields determine one and no other field speaks against it.
import SignIn.Time.Instant
import SignIn.Time.Pattern

namespace SignIn.Time

/-- Why a text is no date or time of the expected form. -/
inductive Fault
  | outOfRange
  | impossible
  | notEnough
  | invalid
  | tooShort
  | tooLong
  | badPattern
  deriving DecidableEq, Repr

def Fault.message : Fault → String
  | .outOfRange => "input is out of range"
  | .impossible => "no possible date and time matching input"
  | .notEnough => "input is not enough for unique date and time"
  | .invalid => "input contains invalid characters"
  | .tooShort => "premature end of input"
  | .tooLong => "trailing input"
  | .badPattern => "bad or unsupported format string"

/-- The values that a field can take. -/
def Field.bounds : Field → Int × Int
  | .year | .weekYear | .offset => (Text.Decimal.int32Low, Text.Decimal.int32High)
  | .century => (0, Text.Decimal.int32High)
  | .yearOfCentury | .weekYearOfCentury => (0, 99)
  | .quarter => (1, 4)
  | .month => (1, 12)
  | .day => (1, 31)
  | .dayOfYear => (1, 366)
  | .weekFromSunday | .weekFromMonday => (0, 53)
  | .weekOfYear => (1, 53)
  | .weekday => (0, 6)
  | .halfDay => (0, 1)
  | .hourOfHalf => (0, 11)
  | .minute => (0, 59)
  | .second => (0, 60)
  | .nanosecond => (0, 999999999)
  | .unixTime => (Text.Decimal.int64Low, Text.Decimal.int64High)

/-- The fields said so far. -/
structure Fields where
  get : Field → Option Int

namespace Fields

/-- Nothing said yet. -/
def empty : Fields := ⟨fun _ => none⟩

/-- Says a field: its value must be possible for it, and the one it had, if any. -/
def say (fs : Fields) (f : Field) (v : Int) : Except Fault Fields :=
  if v < f.bounds.1 ∨ f.bounds.2 < v then .error .outOfRange
  else match fs.get f with
    | none => .ok ⟨fun g => if g = f then some v else fs.get g⟩
    | some old => if old = v then .ok fs else .error .impossible

/-- Says a number that an item has read. -/
def sayNumber (fs : Fields) : NumberItem → Int → Except Fault Fields
  | .plain f _, v | .signed f _, v => fs.say f v
  | .hour, v =>
    if v < 0 ∨ 23 < v then .error .outOfRange
    else (fs.say .halfDay (v / 12)).bind fun fs => fs.say .hourOfHalf (v % 12)
  | .hour12, v => if v < 1 ∨ 12 < v then .error .outOfRange else fs.say .hourOfHalf (v % 12)
  | .daysFromSunday, v =>
    if v < 0 ∨ 6 < v then .error .outOfRange else fs.say .weekday ((v + 6) % 7)
  | .dayFromMonday, v =>
    if v < 1 ∨ 7 < v then .error .outOfRange else fs.say .weekday (v - 1)
  | .unixTime, v => fs.say .unixTime v

/-! ## The date that follows -/

/-- The year that a full year, a century and a year of the century speak of together. A year of the
century alone is one of 1970 to 2069. -/
def resolveYear (full hundreds rest : Option Int) : Except Fault (Option Int) :=
  match full, hundreds, rest with
  | y, none, none => .ok y
  | some y, q, r =>
    if y < 0 then .error .impossible
    else if q.getD (y / 100) = y / 100 ∧ r.getD (y % 100) = y % 100 then .ok (some y)
    else .error .impossible
  | none, some q, some r =>
    if Text.Decimal.int32High < q * 100 + r then .error .outOfRange else .ok (some (q * 100 + r))
  | none, none, some r => .ok (some (if r < 70 then r + 2000 else r + 1900))
  | none, some _, none => .error .notEnough

/-- Whether a field is unsaid or has this value. -/
def allows (fs : Fields) (f : Field) (v : Int) : Bool :=
  match fs.get f with
  | none => true
  | some w => v == w

/-- Whether a year, its century and the year of it are allowed. A century can only be said of a year
that is not negative. -/
def allowsYear (fs : Fields) (full hundreds rest : Field) (year : Int) : Bool :=
  fs.allows full year &&
    (if 0 ≤ year then fs.allows hundreds (year / 100) && fs.allows rest (year % 100)
    else (fs.get hundreds).isNone && (fs.get rest).isNone)

/-- Whether the calendar date is allowed. -/
def allowsDate (fs : Fields) (d : Date) : Bool :=
  fs.allowsYear .year .century .yearOfCentury d.year && fs.allows .month d.month &&
    fs.allows .day d.day

/-- Whether the week and the weekday are allowed. Nothing ever says the century of a week's year. -/
def allowsWeekDate (fs : Fields) (d : Date) : Bool :=
  fs.allows .weekYear d.weekYear &&
    (if 0 ≤ d.weekYear then fs.allows .weekYearOfCentury (d.weekYear % 100)
    else (fs.get .weekYearOfCentury).isNone) &&
    fs.allows .weekOfYear d.weekOfYear && fs.allows .weekday d.weekday

/-- Whether the day of the year and the numbers of the other kinds of week are allowed. -/
def allowsDayOfYear (fs : Fields) (d : Date) : Bool :=
  fs.allows .dayOfYear d.dayOfYear && fs.allows .weekFromSunday (d.weekFrom 6) &&
    fs.allows .weekFromMonday (d.weekFrom 0)

/-- The day with a weekday in a week that is counted from the year's first weekday `start` on. -/
def ofWeekFrom (year week : Int) (weekday start : Nat) : Except Fault Date :=
  match Date.ofDayOfYear? year 1 with
  | none => .error .outOfRange
  | some newYear =>
    let firstWeek : Int := 1 + daysSince start newYear.weekday
    let position := firstWeek + (week - 1) * 7 + daysSince weekday start
    if position ≤ 0 then .error .impossible
    else match Date.ofDayOfYear? year position.toNat with
      | none => .error .impossible
      | some d => .ok d

/-- The date, if the calendar has it. -/
def existing : Option Date → Except Fault Date
  | some d => .ok d
  | none => .error .outOfRange

/-- The first way that leads to a date, and whether the other fields allow it. The ways are: year,
month and day; day of the year; a week from Sunday or from Monday; a week of the week's year. -/
def candidate (fs : Fields) (year weekYear : Option Int) : Except Fault (Date × Bool) :=
  match year, fs.get .month, fs.get .day, fs.get .dayOfYear, fs.get .weekday,
    fs.get .weekFromSunday, fs.get .weekFromMonday, weekYear, fs.get .weekOfYear with
  | some y, some m, some d, _, _, _, _, _, _ =>
    (existing (Date.ofParts? y m.toNat d.toNat)).map fun date =>
      (date, fs.allowsWeekDate date && fs.allowsDayOfYear date)
  | some y, _, _, some n, _, _, _, _, _ =>
    (existing (Date.ofDayOfYear? y n.toNat)).map fun date =>
      (date, fs.allowsDate date && fs.allowsWeekDate date && fs.allowsDayOfYear date)
  | some y, _, _, _, some wd, some w, _, _, _ =>
    (ofWeekFrom y w wd.toNat 6).map fun date =>
      (date, fs.allowsDate date && fs.allowsWeekDate date && fs.allowsDayOfYear date)
  | some y, _, _, _, some wd, _, some w, _, _ =>
    (ofWeekFrom y w wd.toNat 0).map fun date =>
      (date, fs.allowsDate date && fs.allowsWeekDate date && fs.allowsDayOfYear date)
  | _, _, _, _, some wd, _, _, some wy, some w =>
    (existing (Date.ofWeek? wy w wd.toNat)).map fun date =>
      (date, fs.allowsDate date && fs.allowsDayOfYear date)
  | _, _, _, _, _, _, _, _, _ => .error .notEnough

/-- The date that the fields determine. -/
def date (fs : Fields) : Except Fault Date := do
  let year ← resolveYear (fs.get .year) (fs.get .century) (fs.get .yearOfCentury)
  let weekYear ← resolveYear (fs.get .weekYear) none (fs.get .weekYearOfCentury)
  let (d, allowed) ← fs.candidate year weekYear
  if allowed && fs.allows .quarter ((d.month - 1) / 3 + 1 : Nat) then .ok d else .error .impossible

end Fields

end SignIn.Time
