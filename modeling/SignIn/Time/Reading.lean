-- Reading a text by the items of a pattern.
import SignIn.Time.Fields

namespace SignIn.Time

/-! ## Pieces -/

/-- The bytes that characters take in UTF-8. -/
def byteCount (cs : List Char) : Nat := cs.foldl (fun n c => n + c.utf8Size) 0

/-- Reads up to `width` digits onto `n`. More than 63 bits are out of range. -/
def digitsOnto (n : Nat) : (width : Nat) → List Char → Except Fault (Nat × List Char)
  | 0, cs => .ok (n, cs)
  | _ + 1, [] => .ok (n, [])
  | width + 1, c :: r =>
    match Text.Decimal.digit? c with
    | none => .ok (n, c :: r)
    | some d =>
      if n * 10 + d < 0x8000000000000000 then digitsOnto (n * 10 + d) width r else .error .outOfRange

/-- Reads a number of one to `width` digits. -/
def readNumber (width : Nat) : List Char → Except Fault (Nat × List Char)
  | [] => .error .tooShort
  | c :: r =>
    if (Text.Decimal.digit? c).isNone then .error .invalid else digitsOnto 0 width (c :: r)

/-- Reads a number of exactly `width` digits. -/
def readDigits (width : Nat) (cs : List Char) : Except Fault (Nat × List Char) :=
  if byteCount cs < width then .error .tooShort
  else if (cs.take width).all fun c => (Text.Decimal.digit? c).isSome then digitsOnto 0 width cs
  else .error .invalid

/-- Reads a number of one to `width` digits as one that could be negative. -/
def readWhole (width : Nat) (cs : List Char) : Except Fault (Int × List Char) :=
  (readNumber width cs).map fun (n, r) => (Int.ofNat n, r)

/-- Reads a number before which a sign may stand. A sign allows any number of digits. -/
def readSigned (width : Nat) (cs : List Char) : Except Fault (Int × List Char) :=
  match cs with
  | '-' :: r => (readNumber r.length r).map fun (n, r) => (-Int.ofNat n, r)
  | '+' :: r => readWhole r.length r
  | cs => readWhole width cs

/-- The characters with ASCII letters in lower case. -/
def asciiLower (cs : List Char) : List Char := cs.map Char.toLower

/-- The rest behind `word`, which is in lower case, if the text starts with it in any case. -/
def dropWord? (word : List Char) (cs : List Char) : Option (List Char) :=
  if asciiLower (cs.take word.length) = word then some (cs.drop word.length) else none

/-- Names by their first three letters and the letters that follow in the full name. -/
def monthNames : List (String × String) :=
  [("jan", "uary"), ("feb", "ruary"), ("mar", "ch"), ("apr", "il"), ("may", ""), ("jun", "e"),
    ("jul", "y"), ("aug", "ust"), ("sep", "tember"), ("oct", "ober"), ("nov", "ember"),
    ("dec", "ember")]

/-- The weekdays from Monday on. -/
def weekdayNames : List (String × String) :=
  [("mon", "day"), ("tue", "sday"), ("wed", "nesday"), ("thu", "rsday"), ("fri", "day"),
    ("sat", "urday"), ("sun", "day")]

/-- Reads one of the names, which are numbered from `n` on. In a full name the letters behind the
first three may also be missing. -/
def readName (long : Bool) (n : Nat) (cs : List Char) :
    List (String × String) → Except Fault (Nat × List Char)
  | [] => .error .invalid
  | (short, rest) :: names =>
    match dropWord? short.toList cs with
    | some r => .ok (n, if long then (dropWord? rest.toList r).getD r else r)
    | none => readName long (n + 1) cs names

/-- Reads a name, which takes at least three bytes. -/
def readShortOrLong (long : Bool) (first : Nat) (names : List (String × String)) (cs : List Char) :
    Except Fault (Nat × List Char) :=
  if byteCount cs < 3 then .error .tooShort else readName long first cs names

/-- Reads a fraction of a second behind its point: up to nine digits count, more are passed over. -/
def readFraction (cs : List Char) : Except Fault (Nat × List Char) :=
  (readNumber 9 cs).map fun (n, r) =>
    (n * Nat.pow 10 (9 - (cs.length - r.length)),
      r.dropWhile fun c => (Text.Decimal.digit? c).isSome)

/-- Reads a fraction of a second of exactly `width` digits. -/
def readFractionDigits (width : Nat) (cs : List Char) : Except Fault (Nat × List Char) :=
  (readDigits width cs).map fun (n, r) => (n * Nat.pow 10 (9 - width), r)

/-- Reads two digits, the first one at most `high`. -/
def readPair (high : Nat) (cs : List Char) : Except Fault (Nat × List Char) :=
  if byteCount cs < 2 then .error .tooShort
  else match cs with
    | a :: b :: r =>
      match Text.Decimal.digit? a, Text.Decimal.digit? b with
      | some x, some y => if x ≤ high then .ok (x * 10 + y, r) else .error .outOfRange
      | _, _ => .error .invalid
    | _ => .error .invalid

/-- The minutes of an offset: they may be missing at the end of the text if that is allowed. -/
def readOffsetMinutes (minutesOptional : Bool) (cs : List Char) : Except Fault (Nat × List Char) :=
  if minutesOptional ∧ cs = [] then .ok (0, []) else readPair 5 cs

/-- Reads an offset from universal time, in seconds: a sign, hours, colons or white space or
nothing, and minutes. -/
def readOffset (zulu minutesOptional : Bool) : List Char → Except Fault (Int × List Char)
  | [] => .error .tooShort
  | c :: r =>
    if zulu && (c == 'Z' || c == 'z') then .ok (0, r)
    else if c == '+' || c == '-' || c == '−' then
      (readPair 9 r).bind fun (hours, r) =>
        (readOffsetMinutes minutesOptional (r.dropWhile fun c => c == ':' || Text.isBlank c)).map
          fun (minutes, r) =>
            let seconds : Int := hours * 3600 + minutes * 60
            (if c == '+' then seconds else -seconds, r)
    else .error .invalid

/-! ## Items -/

/-- What reading yields: the fields said and the rest of the text. -/
abbrev Step := Except Fault (Fields × List Char)

/-- Says the value that a reader found. -/
def sayValue (fs : Fields) (f : Field) (found : Except Fault (Nat × List Char)) : Step :=
  found.bind fun (v, r) => (fs.say f v).map fun fs => (fs, r)

/-- Reads these very characters. A text with fewer bytes is too short for them. -/
def readLiteral (fs : Fields) (text cs : List Char) : Step :=
  if byteCount cs < byteCount text then .error .tooShort
  else if text.isPrefixOf cs then .ok (fs, cs.drop text.length)
  else .error .invalid

/-- Reads the number of an item. White space may stand before it. -/
def readNumberItem (fs : Fields) (item : NumberItem) (cs : List Char) : Step :=
  let cs := Text.trimStart cs
  let found := match item with
    | .signed _ width => readSigned width cs
    | .plain _ width => readWhole width cs
    | .unixTime => readWhole cs.length cs
    | .hour | .hour12 => readWhole 2 cs
    | .daysFromSunday | .dayFromMonday => readWhole 1 cs
  found.bind fun (v, r) => (fs.sayNumber item v).map fun fs => (fs, r)

/-- Reads the half of the day. -/
def readHalf (fs : Fields) (cs : List Char) : Step :=
  if byteCount cs < 2 then .error .tooShort
  else match dropWord? ['a', 'm'] cs, dropWord? ['p', 'm'] cs with
    | some r, _ => (fs.say .halfDay 0).map fun fs => (fs, r)
    | none, some r => (fs.say .halfDay 1).map fun fs => (fs, r)
    | none, none => .error .invalid

/-- Reads an item that consists of no others; a date with a time of day is read by
`readDateTime`. -/
def readSimple (fs : Fields) (item : Item) (cs : List Char) : Step :=
  match item with
  | .literal text => readLiteral fs text cs
  | .space => .ok (fs, Text.trimStart cs)
  | .number item => readNumberItem fs item cs
  | .monthName long => sayValue fs .month (readShortOrLong long 1 monthNames cs)
  | .weekdayName long => sayValue fs .weekday (readShortOrLong long 0 weekdayNames cs)
  | .amPm => readHalf fs cs
  | .fraction digits =>
    match cs with
    | '.' :: r =>
      sayValue fs .nanosecond (if digits = 0 then readFraction r else readFractionDigits digits r)
    | cs => .ok (fs, cs)
  | .fractionDigits digits => sayValue fs .nanosecond (readFractionDigits digits cs)
  | .zoneName => .ok (fs, cs.dropWhile (!Text.isBlank ·))
  | .offset zulu minutesOptional =>
    (readOffset zulu minutesOptional (Text.trimStart cs)).bind fun (v, r) =>
      (fs.say .offset v).map fun fs => (fs, r)
  | .dateTime | .unknown => .error .badPattern

/-- Reads the items one after the other with the given reader. -/
def readEach (read : Fields → Item → List Char → Step) (fs : Fields) (cs : List Char) :
    List Item → Step
  | [] => .ok (fs, cs)
  | item :: items => (read fs item cs).bind fun (fs, r) => readEach read fs r items

/-- The date of the usual notation. White space may stand before the dashes. -/
def dateItems : List Item := [Item.year, .space, Item.dash, Item.month, .space, Item.dash, Item.day]

/-- The time of day of the usual notation. White space may stand before the colons. -/
def timeItems : List Item :=
  [Item.hour, .space, Item.colon, Item.minute, .space, Item.colon, Item.second, .fraction 0, .space]

/-- Reads the offset of the usual notation: `UTC`, `Z` or hours and minutes. -/
def readZone (fs : Fields) (cs : List Char) : Step :=
  match dropWord? ['u', 't', 'c'] cs with
  | some r => (fs.say .offset 0).map fun fs => (fs, r)
  | none => (readOffset true false cs).bind fun (v, r) => (fs.say .offset v).map fun fs => (fs, r)

/-- Reads a date, a `T` or a blank, a time of day and an offset. -/
def readDateTime (fs : Fields) (cs : List Char) : Step :=
  (readEach readSimple fs cs dateItems).bind fun (fs, r) =>
    match r with
    | [] => .error .tooShort
    | c :: r =>
      if c == 'T' || c == 't' || c == ' ' then
        (readEach readSimple fs r timeItems).bind fun (fs, r) => readZone fs (Text.trimStart r)
      else .error .invalid

/-- Reads an item. -/
def readItem (fs : Fields) (item : Item) (cs : List Char) : Step :=
  match item with
  | .dateTime => readDateTime fs cs
  | item => readSimple fs item cs

/-- The fields that the whole text says. -/
def readAll (items : List Item) (cs : List Char) : Except Fault Fields :=
  (readEach readItem Fields.empty cs items).bind fun (fs, r) =>
    if r.isEmpty then .ok fs else .error .tooLong

/-! ## Dates -/

/-- The date that a text names in a pattern. -/
def Date.parse (pattern text : String) : Except Fault Date :=
  (readAll (itemsOf pattern.toList) text.toList).bind Fields.date

/-- The date that a text names in the usual notation. White space may follow it. -/
def Date.ofText? (text : String) : Option Date :=
  ((readAll (dateItems ++ [.space]) text.toList).bind Fields.date).toOption

end SignIn.Time
