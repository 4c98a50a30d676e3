-- Reading what has been written of a date or a time: a run of digits is read as
-- its number where it ends, and the items of the usual notation say the fields
-- that the text was written from.
import SignIn.Time.Reading
import SignIn.Proofs.Text.Decimal

namespace SignIn.Time

open Text.Decimal (digit? padded digit?_eq_some le_of_readDigits readDigits_padded length_padded
  padded_ne_nil)

variable {fs : Fields} {ds rest : List Char} {width n v : Nat}

/-! ## Runs of digits -/

/-- The characters do not go on with a digit. -/
def Stops (rest : List Char) : Prop := ∀ c r, rest = c :: r → digit? c = none

theorem stops_cons {c : Char} (h : digit? c = none) (r : List Char) : Stops (c :: r) := by
  intro c' r' he
  cases he
  exact h

/-- A run of digits is read up to its end, which the width or the next character tells. -/
theorem digitsOnto_eq (hread : Text.Decimal.readDigits n ds = some v)
    (hv : v < 0x8000000000000000) (hlen : ds.length ≤ width)
    (hend : ds.length = width ∨ Stops rest) : digitsOnto n width (ds ++ rest) = .ok (v, rest) := by
  induction ds generalizing n width with
  | nil =>
    obtain rfl : n = v := by simpa [Text.Decimal.readDigits] using hread
    cases width with
    | zero => rfl
    | succ width =>
      have hstops : Stops rest := by simpa using hend
      cases rest with
      | nil => rfl
      | cons c r =>
        rw [List.nil_append, digitsOnto, hstops c r rfl]
  | cons c ds ih =>
    obtain ⟨d, hd, hread⟩ := Option.bind_eq_some_iff.1 hread
    cases width with
    | zero => simp at hlen
    | succ width =>
      have hle := le_of_readDigits hread
      rw [List.cons_append, digitsOnto, hd]
      dsimp only
      rw [if_pos (by omega)]
      refine ih hread (by simpa using hlen) ?_
      rcases hend with hend | hend
      · exact Or.inl (by simpa using hend)
      · exact Or.inr hend

/-- The characters are digits of a number of at most 63 bits. -/
structure Numeral (ds : List Char) (v : Nat) : Prop where
  ne_nil : ds ≠ []
  value : Text.Decimal.readDigits 0 ds = some v
  small : v < 0x8000000000000000

theorem numeral_padded (width : Nat) (h : n < 0x8000000000000000) :
    Numeral (padded width n).toList n :=
  ⟨padded_ne_nil width n, readDigits_padded width n, h⟩

/-- A numeral begins with a digit. -/
theorem Numeral.begins (h : Numeral ds v) :
    ∃ c r d, ds = c :: r ∧ d < 10 ∧ c = Nat.digitChar d ∧ digit? c = some d := by
  obtain ⟨hne, hread, _⟩ := h
  cases ds with
  | nil => exact absurd rfl hne
  | cons c r =>
    obtain ⟨d, hd, _⟩ := Option.bind_eq_some_iff.1 hread
    obtain ⟨hlt, hc⟩ := digit?_eq_some hd
    exact ⟨c, r, d, rfl, hlt, hc, hd⟩

theorem isBlank_digitChar {d : Nat} (h : d < 10) : Text.isBlank (Nat.digitChar d) = false := by
  have hall : ∀ d < 10, Text.isBlank (Nat.digitChar d) = false := by decide
  exact hall d h

theorem Numeral.trimStart (h : Numeral ds v) (rest : List Char) :
    Text.trimStart (ds ++ rest) = ds ++ rest := by
  obtain ⟨c, r, d, rfl, hd, rfl, _⟩ := h.begins
  exact Text.trimStart_of_head (isBlank_digitChar hd)

theorem Numeral.readNumber (h : Numeral ds v) (hlen : ds.length ≤ width)
    (hend : ds.length = width ∨ Stops rest) :
    Time.readNumber width (ds ++ rest) = .ok (v, rest) := by
  have honto : digitsOnto 0 width (ds ++ rest) = .ok (v, rest) :=
    digitsOnto_eq h.value h.small hlen hend
  obtain ⟨c, r, d, rfl, _, _, hd⟩ := h.begins
  rw [List.cons_append] at honto ⊢
  unfold Time.readNumber
  dsimp only
  rw [hd]
  exact honto

theorem Numeral.readWhole (h : Numeral ds v) (hlen : ds.length ≤ width)
    (hend : ds.length = width ∨ Stops rest) :
    Time.readWhole width (ds ++ rest) = .ok ((v : Int), rest) := by
  unfold Time.readWhole
  rw [h.readNumber hlen hend]
  rfl

/-- Without a sign a number has at most so many digits. -/
theorem Numeral.readSigned (h : Numeral ds v) (hlen : ds.length ≤ width)
    (hend : ds.length = width ∨ Stops rest) :
    Time.readSigned width (ds ++ rest) = .ok ((v : Int), rest) := by
  have hwhole := h.readWhole hlen hend
  obtain ⟨c, r, d, rfl, hlt, rfl, _⟩ := h.begins
  have hsign : ∀ d < 10, Nat.digitChar d ≠ '-' ∧ Nat.digitChar d ≠ '+' := by decide
  unfold Time.readSigned
  split
  · rename_i he
    exact absurd (List.cons.inj he).1 (hsign d hlt).1
  · rename_i he
    exact absurd (List.cons.inj he).1 (hsign d hlt).2
  · exact hwhole

/-- Behind a sign a number has as many digits as there are. -/
theorem Numeral.readSigned_minus (h : Numeral ds v) (hstops : Stops rest) (width : Nat) :
    Time.readSigned width ('-' :: (ds ++ rest)) = .ok (-(v : Int), rest) := by
  have hread : Time.readNumber (ds ++ rest).length (ds ++ rest) = .ok (v, rest) := by
    apply h.readNumber
    · simp
    · exact Or.inr hstops
  change (Time.readNumber (ds ++ rest).length (ds ++ rest)).map _ = _
  rw [hread]
  rfl

theorem Numeral.readSigned_plus (h : Numeral ds v) (hstops : Stops rest) (width : Nat) :
    Time.readSigned width ('+' :: (ds ++ rest)) = .ok ((v : Int), rest) :=
  h.readWhole (by simp) (Or.inr hstops)

/-! ## Fields -/

/-- The fields with one more. -/
def Fields.also (fs : Fields) (f : Field) (v : Int) : Fields :=
  ⟨fun g => if g = f then some v else fs.get g⟩

/-- A field that has not been said is said. -/
theorem Fields.say_of_unsaid {f : Field} {v : Int} (hf : fs.get f = none)
    (hv : f.bounds.1 ≤ v ∧ v ≤ f.bounds.2) : fs.say f v = .ok (fs.also f v) := by
  unfold Fields.say
  rw [if_neg (by omega), hf]
  rfl

/-- What a year is written as, is read as that year. -/
theorem readSigned_yearText {year : Int} (hyear : firstYear ≤ year ∧ year ≤ lastYear)
    (hstops : Stops rest) :
    readSigned 4 ((yearText year).toList ++ rest) = .ok (year, rest) := by
  unfold firstYear lastYear at hyear
  unfold yearText
  by_cases hplain : 0 ≤ year ∧ year ≤ 9999
  · rw [if_pos hplain]
    have hsmall : year.toNat < 10000 := by omega
    have hlen : (padded 4 year.toNat).toList.length = 4 := length_padded hsmall
    rw [(numeral_padded 4 (by omega)).readSigned (by omega) (Or.inl hlen), Int.toNat_of_nonneg]
    omega
  · rw [if_neg hplain]
    by_cases hneg : year < 0
    · rw [if_pos hneg, String.toList_append]
      refine ((numeral_padded 4 (by omega)).readSigned_minus hstops 4).trans ?_
      rw [Int.ofNat_natAbs_of_nonpos (by omega), Int.neg_neg]
    · rw [if_neg hneg, String.toList_append]
      refine ((numeral_padded 4 (by omega)).readSigned_plus hstops 4).trans ?_
      rw [Int.natAbs_of_nonneg (by omega)]

/-- What a year is written as begins with no white space. -/
theorem trimStart_yearText {year : Int} (hyear : firstYear ≤ year ∧ year ≤ lastYear)
    (rest : List Char) :
    Text.trimStart ((yearText year).toList ++ rest) = (yearText year).toList ++ rest := by
  unfold firstYear lastYear at hyear
  unfold yearText
  split
  · exact (numeral_padded 4 (by omega)).trimStart rest
  · split
    · rw [String.toList_append]
      exact Text.trimStart_of_head (by decide)
    · rw [String.toList_append]
      exact Text.trimStart_of_head (by decide)

/-! ## Items -/

theorem byteCount_cons (c : Char) (cs : List Char) :
    byteCount (c :: cs) = c.utf8Size + byteCount cs := by
  have hshift : ∀ (cs : List Char) (n : Nat),
      cs.foldl (fun n c => n + c.utf8Size) n = n + byteCount cs := by
    intro cs
    unfold byteCount
    induction cs with
    | nil => simp
    | cons c cs ih =>
      intro n
      rw [List.foldl_cons, List.foldl_cons, ih, ih (0 + c.utf8Size)]
      omega
  unfold byteCount
  rw [List.foldl_cons, hshift]
  unfold byteCount
  omega

theorem readLiteral_cons (fs : Fields) (c : Char) (cs : List Char) :
    readLiteral fs [c] (c :: cs) = .ok (fs, cs) := by
  unfold readLiteral
  rw [byteCount_cons, byteCount_cons, if_neg (by simp [byteCount])]
  simp

theorem readNumberItem_plain {f : Field} (h : Numeral ds v) (hlen : ds.length = width)
    (hf : fs.get f = none) (hv : f.bounds.1 ≤ v ∧ v ≤ f.bounds.2) (rest : List Char) :
    readNumberItem fs (.plain f width) (ds ++ rest) = .ok (fs.also f v, rest) := by
  unfold readNumberItem
  dsimp only
  rw [h.trimStart, h.readWhole (by omega) (Or.inl hlen)]
  change (fs.say f v).map _ = _
  rw [Fields.say_of_unsaid hf hv]
  rfl

/-- The hour of the day says the half of the day and the hour of it. -/
theorem readNumberItem_hour (h : Numeral ds v) (hlen : ds.length = 2) (hv : v ≤ 23)
    (hhalf : fs.get .halfDay = none) (hhour : fs.get .hourOfHalf = none) (rest : List Char) :
    readNumberItem fs .hour (ds ++ rest) =
      .ok ((fs.also .halfDay (v / 12 : Nat)).also .hourOfHalf (v % 12 : Nat), rest) := by
  have hsaid : (fs.also .halfDay (v / 12 : Nat)).get .hourOfHalf = none := by
    unfold Fields.also
    simpa using hhour
  have hfirst : fs.say .halfDay ((v : Int) / 12) = .ok (fs.also .halfDay (v / 12 : Nat)) := by
    refine Fields.say_of_unsaid hhalf ?_
    change (0 : Int) ≤ _ ∧ _ ≤ (1 : Int)
    omega
  have hsecond : (fs.also .halfDay (v / 12 : Nat)).say .hourOfHalf ((v : Int) % 12) =
      .ok ((fs.also .halfDay (v / 12 : Nat)).also .hourOfHalf (v % 12 : Nat)) := by
    refine Fields.say_of_unsaid hsaid ?_
    change (0 : Int) ≤ _ ∧ _ ≤ (11 : Int)
    omega
  unfold readNumberItem
  dsimp only
  rw [h.trimStart, h.readWhole (by omega) (Or.inl hlen)]
  change (if (v : Int) < 0 ∨ (23 : Int) < v then (Except.error Fault.outOfRange)
    else (fs.say .halfDay ((v : Int) / 12)).bind fun fs => fs.say .hourOfHalf ((v : Int) % 12)).map
      _ = _
  rw [if_neg (by omega), hfirst]
  change ((fs.also .halfDay (v / 12 : Nat)).say .hourOfHalf ((v : Int) % 12)).map _ = _
  rw [hsecond]
  rfl

theorem readEach_append (read : Fields → Item → List Char → Step) (items more : List Item)
    (fs : Fields) (cs : List Char) :
    readEach read fs cs (items ++ more) =
      (readEach read fs cs items).bind fun (fs, r) => readEach read fs r more := by
  induction items generalizing fs cs with
  | nil => rfl
  | cons item items ih =>
    rw [List.cons_append, readEach, readEach]
    cases read fs item cs with
    | error e => rfl
    | ok x => exact ih x.1 x.2

end SignIn.Time
