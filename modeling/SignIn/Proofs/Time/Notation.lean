-- Dates and clock readings are read back: the usual notation says the year, the
-- month and the day, then the time of day, and these are what a date or a clock
-- reading is put together from again.
import SignIn.Time.Timestamp
import SignIn.Proofs.Time.Calendar
import SignIn.Proofs.Time.Reading

namespace SignIn.Time

open Text.Decimal (padded digit? length_padded)

variable {fs fs' : Fields} {cs rest : List Char} {hour minute sec nanos n : Nat}

/-! ## Pieces -/

/-- An item that is read takes its part of the text. -/
theorem readEach_cons {read : Fields → Item → List Char → Step} {item : Item}
    (h : read fs item cs = .ok (fs', rest)) (items : List Item) :
    readEach read fs cs (item :: items) = readEach read fs' rest items := by
  rw [readEach, h]
  rfl

theorem readSimple_literal (c : Char) :
    readSimple fs (.literal [c]) (c :: rest) = .ok (fs, rest) := readLiteral_cons fs c rest

/-- No white space is passed over before anything else. -/
theorem readSimple_space {c : Char} (h : Text.isBlank c = false) :
    readSimple fs .space (c :: rest) = .ok (fs, c :: rest) := by
  simp only [readSimple, Text.trimStart_of_head h]

theorem readSimple_number (fs : Fields) (item : NumberItem) (cs : List Char) :
    readSimple fs (.number item) cs = readNumberItem fs item cs := rfl

/-- Two digits say a field. -/
theorem readSimple_two {f : Field} (hn : n < 100) (hf : fs.get f = none)
    (hv : f.bounds.1 ≤ (n : Int) ∧ (n : Int) ≤ f.bounds.2) :
    readSimple fs (.number (.plain f 2)) ((padded 2 n).toList ++ rest) =
      .ok (fs.also f n, rest) := by
  have hlen : (padded 2 n).toList.length = 2 := length_padded hn
  rw [readSimple_number, readNumberItem_plain (numeral_padded 2 (by omega)) hlen hf hv]

/-- Two digits say the hour of the day. -/
theorem readSimple_hour (hn : n < 24) (hhalf : fs.get .halfDay = none)
    (hhour : fs.get .hourOfHalf = none) :
    readSimple fs Item.hour ((padded 2 n).toList ++ rest) =
      .ok ((fs.also .halfDay (n / 12 : Nat)).also .hourOfHalf (n % 12 : Nat), rest) := by
  have hsmall : n < 100 := by omega
  have hlen : (padded 2 n).toList.length = 2 := length_padded hsmall
  rw [Item.hour, readSimple_number, readNumberItem_hour (numeral_padded 2 (by omega)) hlen
    (by omega) hhalf hhour]

/-! ## Dates -/

/-- The fields that a date says. -/
def Fields.ofDate (d : Date) : Fields :=
  ((Fields.empty.also .year d.year).also .month d.month).also .day d.day

theorem Date.toList_text (d : Date) : d.text.toList =
    (yearText d.year).toList ++ '-' :: ((padded 2 d.month).toList ++
      '-' :: (padded 2 d.day).toList) := by
  simp [Date.text, partsText]

theorem daysInMonth_le (year : Int) (month : Nat) : daysInMonth year month ≤ 31 := by
  have hall : ∀ n ∈ monthLengths year, n ≤ 31 := by
    unfold monthLengths
    cases isLeap year <;> decide
  unfold daysInMonth
  split
  · omega
  · rw [List.getD_eq_getElem?_getD]
    cases h : (monthLengths year)[month - 1]? with
    | none => simp
    | some n => exact hall n (List.mem_of_getElem? h)

theorem readSimple_year {year : Int} (hyear : firstYear ≤ year ∧ year ≤ lastYear)
    (hstops : Stops rest) : readSimple Fields.empty Item.year ((yearText year).toList ++ rest) =
      .ok (Fields.empty.also .year year, rest) := by
  have hsay : Fields.empty.say .year year = .ok (Fields.empty.also .year year) := by
    apply Fields.say_of_unsaid rfl
    simp only [firstYear, lastYear] at hyear
    simp only [Field.bounds, Text.Decimal.int32Low, Text.Decimal.int32High]
    omega
  change readNumberItem _ (.signed .year 4) _ = _
  unfold readNumberItem
  dsimp only
  rw [trimStart_yearText hyear, readSigned_yearText hyear hstops]
  change (Fields.empty.say .year year).map _ = _
  rw [hsay]
  rfl

/-- The usual notation of a date says its year, its month and its day. -/
theorem Date.readEach_text (d : Date) (rest : List Char) :
    readEach readSimple Fields.empty (d.text.toList ++ rest) dateItems =
      .ok (Fields.ofDate d, rest) := by
  have hmonth := d.month_mem
  have hday := d.day_mem
  have hlength := daysInMonth_le d.year d.month
  have hdash : digit? '-' = none := by decide
  have hblank : Text.isBlank '-' = false := by decide
  unfold dateItems
  rw [Date.toList_text, List.append_assoc, List.cons_append, List.append_assoc, List.cons_append,
    readEach_cons (readSimple_year d.year_mem (stops_cons hdash _)),
    readEach_cons (readSimple_space hblank), Item.dash, readEach_cons (readSimple_literal '-'),
    Item.month, readEach_cons (readSimple_two (by omega) rfl ?hmonth),
    readEach_cons (readSimple_space hblank), readEach_cons (readSimple_literal '-'),
    Item.day, readEach_cons (readSimple_two (by omega) rfl ?hday)]
  case hmonth =>
    simp only [Field.bounds]
    omega
  case hday =>
    simp only [Field.bounds]
    omega
  rfl

/-- The fields that speak of the day in another way than by its year, its month and its day. -/
def otherDayFields : List Field :=
  [.century, .yearOfCentury, .weekYear, .weekYearOfCentury, .quarter, .dayOfYear, .weekFromSunday,
    .weekFromMonday, .weekOfYear, .weekday]

/-- Of the day the fields say what a date says, and nothing else. -/
structure SaysDate (fs : Fields) (d : Date) : Prop where
  year : fs.get .year = some d.year
  month : fs.get .month = some (d.month : Int)
  day : fs.get .day = some (d.day : Int)
  unsaid : ∀ f ∈ otherDayFields, fs.get f = none

theorem Fields.get_also_of_ne {f g : Field} (h : g ≠ f) (v : Int) :
    (fs.also f v).get g = fs.get g := if_neg h

theorem saysDate_ofDate (d : Date) : SaysDate (Fields.ofDate d) d := by
  refine ⟨rfl, rfl, rfl, ?_⟩
  simp only [otherDayFields, List.forall_mem_cons]
  exact ⟨rfl, rfl, rfl, rfl, rfl, rfl, rfl, rfl, rfl, rfl, nofun⟩

/-- What is said of anything else leaves the day as it is. -/
theorem SaysDate.also {d : Date} (h : SaysDate fs d) {f : Field}
    (hf : f ∉ Field.year :: .month :: .day :: otherDayFields) (v : Int) :
    SaysDate (fs.also f v) d := by
  simp only [List.mem_cons, not_or] at hf
  obtain ⟨hyear, hmonth, hday, hother⟩ := hf
  refine ⟨?_, ?_, ?_, ?_⟩
  · rw [Fields.get_also_of_ne (Ne.symm hyear), h.year]
  · rw [Fields.get_also_of_ne (Ne.symm hmonth), h.month]
  · rw [Fields.get_also_of_ne (Ne.symm hday), h.day]
  · intro g hg
    have hne : g ≠ f := by
      rintro rfl
      exact hother hg
    rw [Fields.get_also_of_ne hne, h.unsaid g hg]

theorem Date.ofParts?_self (d : Date) : Date.ofParts? d.year d.month d.day = some d := by
  unfold Date.ofParts?
  rw [dif_pos d.year_mem, dif_pos d.month_mem, dif_pos d.day_mem]

/-- The date that is said follows. -/
theorem SaysDate.date {d : Date} (h : SaysDate fs d) : fs.date = .ok d := by
  have hweek : fs.allowsWeekDate d = true := by
    simp (disch := decide) [Fields.allowsWeekDate, Fields.allows, h.unsaid]
  have hposition : fs.allowsDayOfYear d = true := by
    simp (disch := decide) [Fields.allowsDayOfYear, Fields.allows, h.unsaid]
  have hquarter : ∀ v, fs.allows .quarter v = true := by
    simp (disch := decide) [Fields.allows, h.unsaid]
  have hcandidate : fs.candidate (some d.year) none = .ok (d, true) := by
    unfold Fields.candidate
    rw [h.month, h.day]
    dsimp only
    rw [Int.toNat_natCast, Int.toNat_natCast, d.ofParts?_self]
    change Except.ok (d, fs.allowsWeekDate d && fs.allowsDayOfYear d) = _
    rw [hweek, hposition]
    rfl
  unfold Fields.date
  simp (disch := decide) only [h.year, h.unsaid, Fields.resolveYear]
  change (fs.candidate (some d.year) none).bind _ = _
  rw [hcandidate]
  change (if (true && fs.allows .quarter _) = true then _ else _) = _
  rw [hquarter]
  rfl

theorem readEach_readItem (fs : Fields) (cs : List Char) {items : List Item}
    (h : Item.dateTime ∉ items) :
    readEach readItem fs cs items = readEach readSimple fs cs items := by
  induction items generalizing fs cs with
  | nil => rfl
  | cons item items ih =>
    have hitem : readItem fs item cs = readSimple fs item cs := by
      cases item with
      | dateTime => exact absurd List.mem_cons_self h
      | _ => rfl
    rw [readEach, readEach, hitem]
    congr 1
    funext x
    exact ih x.1 x.2 fun hmem => h (List.mem_cons_of_mem _ hmem)

/-- A date is read back. -/
theorem Date.ofText?_text (d : Date) : Date.ofText? d.text = some d := by
  have hread : readAll (dateItems ++ [.space]) d.text.toList = .ok (Fields.ofDate d) := by
    have htext := d.readEach_text []
    rw [List.append_nil] at htext
    unfold readAll
    rw [readEach_readItem _ _ (by decide), readEach_append, htext]
    rfl
  unfold Date.ofText?
  rw [hread]
  change (Fields.ofDate d).date.toOption = _
  rw [(saysDate_ofDate d).date]
  rfl

/-! ## Clock readings -/

/-- A time of day as it is written in universal time. -/
def timeChars (hour minute sec nanos : Nat) : List Char :=
  (padded 2 hour).toList ++ ':' :: ((padded 2 minute).toList ++ ':' :: ((padded 2 sec).toList ++
    ((shortFraction nanos).toList ++ ['Z'])))

/-- The fields with those that a time of day says; a fraction of zero is not said. -/
def Fields.withTime (fs : Fields) (hour minute sec nanos : Nat) : Fields :=
  let fs := (((fs.also .halfDay (hour / 12 : Nat)).also .hourOfHalf (hour % 12 : Nat)).also
    .minute minute).also .second sec
  if nanos = 0 then fs else fs.also .nanosecond nanos

/-- A fraction counts for the digits that it leaves out. -/
theorem Numeral.readFraction {ds : List Char} {v : Nat} (h : Numeral ds v) (hlen : ds.length ≤ 9)
    (hstops : Stops rest) :
    Time.readFraction (ds ++ rest) = .ok (v * Nat.pow 10 (9 - ds.length), rest) := by
  have hdrop : (rest.dropWhile fun c => (digit? c).isSome) = rest := by
    cases rest with
    | nil => rfl
    | cons c r => simp [hstops c r rfl]
  unfold Time.readFraction
  rw [h.readNumber hlen (Or.inr hstops)]
  change Except.ok (v * Nat.pow 10 (9 - ((ds ++ rest).length - rest.length)), _) = _
  rw [hdrop, List.length_append, Nat.add_sub_cancel]

theorem readSimple_point (fs : Fields) (cs : List Char) :
    readSimple fs (.fraction 0) ('.' :: cs) = sayValue fs .nanosecond (readFraction cs) := rfl

/-- A fraction is read as the nanoseconds that it was written for. -/
theorem readSimple_fraction (hf : fs.get .nanosecond = none) (hn : nanos < 1000000000) :
    readSimple fs (.fraction 0) ((shortFraction nanos).toList ++ ['Z']) =
      .ok (if nanos = 0 then fs else fs.also .nanosecond nanos, ['Z']) := by
  have hstops : Stops ['Z'] := by
    apply stops_cons
    decide
  -- A fraction of some digits, whose missing digits are zeros.
  have hdigits : ∀ width value, width < 9 → value < Nat.pow 10 (width + 1) →
      value * Nat.pow 10 (9 - (width + 1)) = nanos →
      readSimple fs (.fraction 0) (("." ++ padded (width + 1) value).toList ++ ['Z']) =
        .ok (fs.also .nanosecond nanos, ['Z']) := by
    intro width value hwidth hvalue hnanos
    have hlen := length_padded hvalue
    have hsmall : value < 0x8000000000000000 := by
      have hle : Nat.pow 10 (width + 1) ≤ Nat.pow 10 9 :=
        Nat.pow_le_pow_right (by decide) (by omega)
      exact Nat.lt_of_lt_of_le hvalue (Nat.le_trans hle (by decide))
    have hread := (numeral_padded (width + 1) hsmall).readFraction (by omega) hstops
    rw [hlen, hnanos] at hread
    have hsay : fs.say .nanosecond nanos = .ok (fs.also .nanosecond nanos) := by
      apply Fields.say_of_unsaid hf
      simp only [Field.bounds]
      omega
    have hpoint : ("." ++ padded (width + 1) value).toList ++ ['Z'] =
        '.' :: ((padded (width + 1) value).toList ++ ['Z']) := by
      rw [String.toList_append]
      rfl
    rw [hpoint, readSimple_point, hread]
    change (fs.say .nanosecond nanos).map _ = _
    rw [hsay]
    rfl
  unfold shortFraction
  by_cases h0 : nanos = 0
  · rw [if_pos h0, if_pos h0]
    rfl
  · rw [if_neg h0, if_neg h0]
    by_cases hmillis : nanos % 1000000 = 0
    · rw [if_pos hmillis]
      exact hdigits 2 _ (by decide) (show _ < 1000 by omega) (show _ * 1000000 = _ by omega)
    · rw [if_neg hmillis]
      by_cases hmicros : nanos % 1000 = 0
      · rw [if_pos hmicros]
        exact hdigits 5 _ (by decide) (show _ < 1000000 by omega) (show _ * 1000 = _ by omega)
      · rw [if_neg hmicros]
        exact hdigits 8 _ (by decide) (show _ < 1000000000 by omega) (show _ * 1 = _ by omega)

/-- The usual notation of a time of day says its hour, its minute, its second and its fraction. -/
theorem readEach_timeChars (d : Date) (hhour : hour < 24) (hminute : minute < 60) (hsec : sec ≤ 60)
    (hnanos : nanos < 1000000000) :
    readEach readSimple (Fields.ofDate d) (timeChars hour minute sec nanos) timeItems =
      .ok ((Fields.ofDate d).withTime hour minute sec nanos, ['Z']) := by
  have hcolon : Text.isBlank ':' = false := by decide
  have hz : Text.isBlank 'Z' = false := by decide
  unfold timeItems timeChars
  rw [readEach_cons (readSimple_hour hhour rfl rfl), readEach_cons (readSimple_space hcolon),
    Item.colon, readEach_cons (readSimple_literal ':'),
    Item.minute, readEach_cons (readSimple_two (by omega) rfl ?hminute),
    readEach_cons (readSimple_space hcolon), readEach_cons (readSimple_literal ':'),
    Item.second, readEach_cons (readSimple_two (by omega) rfl ?hsecond),
    readEach_cons (readSimple_fraction rfl hnanos), readEach_cons (readSimple_space hz)]
  case hminute =>
    simp only [Field.bounds]
    omega
  case hsecond =>
    simp only [Field.bounds]
    omega
  rfl

theorem readZone_zulu (hf : fs.get .offset = none) :
    readZone fs ['Z'] = .ok (fs.also .offset 0, []) := by
  have hsay : fs.say .offset 0 = .ok (fs.also .offset 0) := by
    apply Fields.say_of_unsaid hf
    decide
  change (fs.say .offset 0).map _ = _
  rw [hsay]
  rfl

theorem Fields.get_withTime_offset (d : Date) :
    ((Fields.ofDate d).withTime hour minute sec nanos).get .offset = none := by
  unfold Fields.withTime
  split <;> rfl

/-- Behind the date and a `T` comes the time of day, and then the offset. -/
theorem readDateTime_of_date (h : readEach readSimple fs cs dateItems = .ok (fs', 'T' :: rest)) :
    readDateTime fs cs = (readEach readSimple fs' rest timeItems).bind fun (fs, r) =>
      readZone fs (Text.trimStart r) := by
  unfold readDateTime
  rw [h]
  dsimp only [Except.bind]
  rw [if_pos (by decide)]

/-- The usual notation of a day and a time of day in universal time says them. -/
theorem readDateTime_chars (d : Date) (hhour : hour < 24) (hminute : minute < 60) (hsec : sec ≤ 60)
    (hnanos : nanos < 1000000000) :
    readDateTime Fields.empty (d.text.toList ++ 'T' :: timeChars hour minute sec nanos) =
      .ok (((Fields.ofDate d).withTime hour minute sec nanos).also .offset 0, []) := by
  rw [readDateTime_of_date (d.readEach_text _), readEach_timeChars d hhour hminute hsec hnanos]
  exact readZone_zulu (Fields.get_withTime_offset d)

theorem toList_clockText {seconds : Int} {d : Date} (sec nanos : Nat)
    (h : partsOfDays (seconds / 86400) = (d.year, d.month, d.day)) :
    (clockText seconds sec nanos).toList = d.text.toList ++
      'T' :: timeChars ((seconds % 86400).toNat / 3600) ((seconds % 86400).toNat / 60 % 60) sec
        nanos := by
  unfold clockText
  rw [h]
  simp [timeChars, Date.text]

theorem SaysDate.withTime {d : Date} (h : SaysDate fs d) (hour minute sec nanos : Nat) :
    SaysDate (fs.withTime hour minute sec nanos) d := by
  have hclock := (((h.also (f := .halfDay) (by decide) (hour / 12 : Nat)).also
    (f := .hourOfHalf) (by decide) (hour % 12 : Nat)).also
    (f := .minute) (by decide) minute).also (f := .second) (by decide) sec
  unfold Fields.withTime
  dsimp only
  split
  · exact hclock
  · apply hclock.also
    decide

namespace Timestamp

/-- The second of the minute that a clock shows. -/
def secondShown (t : Timestamp) : Nat :=
  if t.leap then 60 else (t.instant.unixSeconds % 60).toNat

theorem secondShown_le (t : Timestamp) : t.secondShown ≤ 60 := by
  unfold secondShown
  split <;> omega

/-- The second shown tells whether it is a leap second. -/
theorem secondShown_eq_sixty (t : Timestamp) : t.secondShown = 60 ↔ t.leap = true := by
  unfold secondShown
  cases t.leap with
  | true => simp
  | false =>
    simp only [Bool.false_eq_true, if_false, iff_false]
    omega

/-- The leap second counts as the second before it. -/
theorem min_secondShown (t : Timestamp) :
    min (t.secondShown : Int) 59 = t.instant.unixSeconds % 60 := by
  have hleap := t.leap_mem
  unfold secondShown
  cases h : t.leap with
  | true =>
    rw [h] at hleap
    rw [hleap rfl]
    rfl
  | false =>
    simp only [Bool.false_eq_true, if_false]
    omega

theorem text_eq (t : Timestamp) :
    t.text = clockText t.instant.unixSeconds t.secondShown t.instant.subNanos := rfl

/-- What fields with a day stand for in universal time. -/
theorem ofFields?_eq_some {t : Timestamp} {d : Date} (hdate : fs.date = .ok d)
    (hoffset : fs.get .offset = some 0)
    (hinstant : (d.toDays * 86400 + secondsOfDay fs - 0) * second +
      (fs.get .nanosecond).getD 0 = t.instant.nanos)
    (hleap : (fs.get .second == some 60) = t.leap) : ofFields? fs = some t := by
  have hsaid : ofFields? fs = (Instant.ofNanos? ((d.toDays * 86400 + secondsOfDay fs - 0) * second +
      (fs.get .nanosecond).getD 0)).bind fun instant =>
        if h : (fs.get .second == some 60) = true → instant.unixSeconds % 60 = 59 then
          some ⟨instant, fs.get .second == some 60, h⟩
        else none := by
    unfold ofFields?
    rw [hdate, hoffset]
    rfl
  rw [hsaid, Instant.ofNanos?_eq_some.2 hinstant.symm, Option.bind_some]
  obtain ⟨instant, leap, hmem⟩ := t
  simp only at hleap
  subst hleap
  rw [dif_pos hmem]

/-- The fraction of a second counts, whether it is said or not. -/
theorem getD_nanosecond_withTime (hf : fs.get .nanosecond = none) :
    ((fs.withTime hour minute sec nanos).get .nanosecond).getD 0 = nanos := by
  unfold Fields.withTime
  by_cases h0 : nanos = 0
  · rw [if_pos h0, h0]
    change (fs.get .nanosecond).getD 0 = _
    rw [hf]
    rfl
  · rw [if_neg h0]
    rfl

theorem get_second_withTime :
    (fs.withTime hour minute sec nanos).get .second = some (sec : Int) := by
  unfold Fields.withTime
  dsimp only
  split <;> rfl

theorem secondsOfDay_withTime (fs : Fields) (hour minute sec nanos : Nat) :
    secondsOfDay (fs.withTime hour minute sec nanos) =
      hour * 3600 + minute * 60 + min (sec : Int) 59 := by
  have hclock : secondsOfDay (fs.withTime hour minute sec nanos) =
      (((hour / 12 : Nat) : Int) * 12 + (hour % 12 : Nat)) * 3600 + minute * 60 +
        min (sec : Int) 59 := by
    unfold Fields.withTime
    dsimp only
    split <;> rfl
  rw [hclock]
  omega

/-- The fields of the day and the time of day that an instant lies on stand for its reading. -/
theorem ofFields?_withTime {t : Timestamp} {d : Date}
    (hdays : d.toDays = t.instant.unixSeconds / 86400)
    (hhour : (hour : Int) = t.instant.unixSeconds % 86400 / 3600)
    (hminute : (minute : Int) = t.instant.unixSeconds % 86400 / 60 % 60) :
    ofFields? (((Fields.ofDate d).withTime hour minute t.secondShown t.instant.subNanos).also
      .offset 0) = some t := by
  have hdate := (saysDate_ofDate d).withTime hour minute t.secondShown t.instant.subNanos
  have hseconds := secondsOfDay_withTime (Fields.ofDate d) hour minute t.secondShown
    t.instant.subNanos
  apply ofFields?_eq_some (hdate.also (by decide) 0).date rfl
  · change (d.toDays * 86400 + secondsOfDay (Fields.withTime _ _ _ _ _) - 0) * (second : Nat) +
      ((Fields.withTime _ _ _ _ _).get .nanosecond).getD 0 = _
    rw [hseconds, getD_nanosecond_withTime rfl, t.min_secondShown, hdays]
    unfold Instant.unixSeconds Instant.subNanos second at *
    omega
  · change ((Fields.withTime _ _ _ _ _).get .second == some 60) = _
    rw [get_second_withTime, Bool.eq_iff_iff, ← t.secondShown_eq_sixty, beq_iff_eq,
      Option.some.injEq]
    omega

/-- A clock reading is read back. -/
theorem ofText?_text (t : Timestamp) : ofText? t.text = some t := by
  obtain ⟨d, hparts, hdays⟩ := exists_date_of_isDay (isDay_of_instant t.instant)
  have hhour : (t.instant.unixSeconds % 86400).toNat / 3600 < 24 := by omega
  have hminute : (t.instant.unixSeconds % 86400).toNat / 60 % 60 < 60 := by omega
  have hnanos : t.instant.subNanos < 1000000000 := by
    unfold Instant.subNanos second
    omega
  unfold ofText?
  rw [t.text_eq, toList_clockText _ _ hparts,
    readDateTime_chars d hhour hminute t.secondShown_le hnanos]
  apply ofFields?_withTime hdays
  · omega
  · omega

end Timestamp

end SignIn.Time
