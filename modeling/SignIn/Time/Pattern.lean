-- Date patterns: what a text is expected to hold, item by item. A percent
-- sign starts a directive; white space stands for any white space or none;
-- all else stands for itself.
import SignIn.Text.Blank

namespace SignIn.Time

/-- A quantity that a date or a time of day is made of. -/
inductive Field
  | year | century | yearOfCentury
  | weekYear | weekYearOfCentury
  | quarter | month | day | dayOfYear
  | weekFromSunday | weekFromMonday | weekOfYear | weekday
  | halfDay | hourOfHalf | minute | second | nanosecond
  | unixTime | offset
  deriving DecidableEq, Repr

/-- How a run of digits says something about the fields. -/
inductive NumberItem
  /-- The field itself, in at most `width` digits. -/
  | plain (field : Field) (width : Nat)
  /-- The field with an optional sign; with a sign there may be any number of digits. -/
  | signed (field : Field) (width : Nat)
  /-- The hour of the day, 0 to 23. -/
  | hour
  /-- The hour of the half day, 1 to 12. -/
  | hour12
  /-- The weekday counted from Sunday, which is zero. -/
  | daysFromSunday
  /-- The weekday counted from Monday, which is one. -/
  | dayFromMonday
  /-- The seconds since the beginning of 1970, in any number of digits. -/
  | unixTime
  deriving DecidableEq, Repr

/-- One thing that a pattern expects. -/
inductive Item
  /-- These very characters. -/
  | literal (text : List Char)
  /-- Any amount of white space. -/
  | space
  | number (item : NumberItem)
  /-- A month by its name: of three letters, or in full if `long`. -/
  | monthName (long : Bool)
  /-- A weekday by its name. -/
  | weekdayName (long : Bool)
  /-- The half of the day. -/
  | amPm
  /-- A point and a fraction of a second, if there is a point. `digits` of zero is any number. -/
  | fraction (digits : Nat)
  /-- A fraction of a second in so many digits. -/
  | fractionDigits (digits : Nat)
  /-- A name of a time zone, which says nothing. -/
  | zoneName
  /-- An offset from universal time. -/
  | offset (zulu minutesOptional : Bool)
  /-- A date, a time of day and an offset in the usual notation. -/
  | dateTime
  /-- A directive that does not exist. -/
  | unknown
  deriving DecidableEq, Repr

namespace Item

def year : Item := .number (.signed .year 4)
def month : Item := .number (.plain .month 2)
def day : Item := .number (.plain .day 2)
def hour : Item := .number .hour
def minute : Item := .number (.plain .minute 2)
def second : Item := .number (.plain .second 2)
def colon : Item := .literal [':']
def dash : Item := .literal ['-']
def slash : Item := .literal ['/']

def clock : List Item := [hour, colon, minute, colon, second]
def slashDate : List Item := [month, slash, day, slash, .number (.plain .yearOfCentury 2)]

/-- The items of a directive of one letter. -/
def ofLetter : Char → List Item
  | 'A' => [.weekdayName true]
  | 'B' => [.monthName true]
  | 'C' => [.number (.plain .century 2)]
  | 'D' | 'x' => slashDate
  | 'F' => [year, dash, month, dash, day]
  | 'G' => [.number (.signed .weekYear 4)]
  | 'H' | 'k' => [hour]
  | 'I' | 'l' => [.number .hour12]
  | 'M' => [minute]
  | 'P' | 'p' => [.amPm]
  | 'R' => [hour, colon, minute]
  | 'S' => [second]
  | 'T' | 'X' => clock
  | 'U' => [.number (.plain .weekFromSunday 2)]
  | 'V' => [.number (.plain .weekOfYear 2)]
  | 'W' => [.number (.plain .weekFromMonday 2)]
  | 'Y' => [year]
  | 'Z' => [.zoneName]
  | 'a' => [.weekdayName false]
  | 'b' | 'h' => [.monthName false]
  | 'c' =>
    [.weekdayName false, .space, .monthName false, .space, day, .space] ++ clock ++ [.space, year]
  | 'd' | 'e' => [day]
  | 'f' => [.number (.plain .nanosecond 9)]
  | 'g' => [.number (.plain .weekYearOfCentury 2)]
  | 'j' => [.number (.plain .dayOfYear 3)]
  | 'm' => [month]
  | 'n' | 't' => [.space]
  | 'q' => [.number (.plain .quarter 1)]
  | 'r' => [.number .hour12, colon, minute, colon, second, .space, .amPm]
  | 's' => [.number .unixTime]
  | 'u' => [.number .dayFromMonday]
  | 'v' => [day, dash, .monthName false, dash, year]
  | 'w' => [.number .daysFromSunday]
  | 'y' => [.number (.plain .yearOfCentury 2)]
  | 'z' => [.offset false false]
  | '+' => [.dateTime]
  | '%' => [.literal ['%']]
  | _ => [.unknown]

/-- The items of a directive that a padding flag may change: single numbers only. -/
def padded (items : List Item) : List Item :=
  match items with
  | [.number n] => [.number n]
  | _ => [.unknown]

end Item

/-- The items of the directive at the front, after the percent sign, with the pattern behind it. -/
def directive : List Char → List Item × List Char
  | '.' :: 'f' :: r => ([.fraction 0], r)
  | '.' :: '3' :: 'f' :: r => ([.fraction 3], r)
  | '.' :: '6' :: 'f' :: r => ([.fraction 6], r)
  | '.' :: '9' :: 'f' :: r => ([.fraction 9], r)
  | '3' :: 'f' :: r => ([.fractionDigits 3], r)
  | '6' :: 'f' :: r => ([.fractionDigits 6], r)
  | '9' :: 'f' :: r => ([.fractionDigits 9], r)
  | ':' :: ':' :: ':' :: 'z' :: r => ([.offset false false], r)
  | ':' :: ':' :: 'z' :: r => ([.offset false false], r)
  | ':' :: 'z' :: r => ([.offset false false], r)
  | '#' :: 'z' :: r => ([.offset true true], r)
  | '-' :: c :: r => (Item.padded (Item.ofLetter c), r)
  | '0' :: c :: r => (Item.padded (Item.ofLetter c), r)
  | '_' :: c :: r => (Item.padded (Item.ofLetter c), r)
  | c :: r => (Item.ofLetter c, r)
  | [] => ([.unknown], [])

theorem directive_length_le (cs : List Char) : (directive cs).2.length ≤ cs.length := by
  unfold directive
  split <;> simp <;> omega

/-- Whether the character goes on a run of literal characters. -/
def isLiteral (c : Char) : Bool := c != '%' && !Text.isBlank c

/-- The items of a pattern. -/
def itemsOf : List Char → List Item
  | [] => []
  | '%' :: r =>
    have := directive_length_le r
    (directive r).1 ++ itemsOf (directive r).2
  | c :: r =>
    if Text.isBlank c then .space :: itemsOf (Text.trimStart r)
    else .literal (c :: r.takeWhile isLiteral) :: itemsOf (r.dropWhile isLiteral)
termination_by cs => cs.length
decreasing_by
  · simp only [List.length_cons]; omega
  · simp only [List.length_cons, Text.trimStart]
    exact Nat.lt_succ_of_le (List.dropWhile_sublist _).length_le
  · simp only [List.length_cons]
    exact Nat.lt_succ_of_le (List.dropWhile_sublist _).length_le

end SignIn.Time
