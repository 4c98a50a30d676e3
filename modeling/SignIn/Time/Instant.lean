-- Lengths of time and points of time, both exact to the nanosecond.
import SignIn.Time.Calendar

namespace SignIn.Time

/-- Nanoseconds of a second. -/
def second : Nat := 1000000000

/-! ## Durations -/

/-- A length of time. -/
structure Duration where
  nanos : Nat
  deriving DecidableEq, Repr

namespace Duration

def ofSeconds (n : Nat) : Duration := ⟨n * second⟩
def ofMillis (n : Nat) : Duration := ⟨n * 1000000⟩

/-- The longest length of time that an instant is moved by. -/
def longest : Duration := ofMillis 0x7FFFFFFFFFFFFFFF

/-- The length that an instant is moved by: one that is too long counts as the longest. -/
def cut (d : Duration) : Duration := ⟨min d.nanos longest.nanos⟩

/-- Whole seconds. -/
def seconds (d : Duration) : Nat := d.nanos / second

/-- Nanoseconds beyond the whole seconds. -/
def subNanos (d : Duration) : Nat := d.nanos % second

/-- Whole milliseconds. -/
def millis (d : Duration) : Nat := d.nanos / 1000000

/-- A fraction as its digits after the point, without zeros at the end. -/
def fractionText (width n : Nat) : String :=
  if n = 0 then ""
  else
    let ds := (Text.Decimal.padded width n).toList
    "." ++ String.ofList (ds.reverse.dropWhile (· == '0')).reverse

/-- The length in the greatest unit of which it has at least one: seconds, milliseconds,
microseconds or nanoseconds. -/
def text (d : Duration) : String :=
  if second ≤ d.nanos then
    Text.Decimal.ofNat d.seconds ++ fractionText 9 d.subNanos ++ "s"
  else if 1000000 ≤ d.nanos then
    Text.Decimal.ofNat (d.nanos / 1000000) ++ fractionText 6 (d.nanos % 1000000) ++ "ms"
  else if 1000 ≤ d.nanos then
    Text.Decimal.ofNat (d.nanos / 1000) ++ fractionText 3 (d.nanos % 1000) ++ "µs"
  else Text.Decimal.ofNat d.nanos ++ "ns"

end Duration

/-! ## Instants -/

/-- The first second of the first year, counted from the beginning of 1970. -/
def firstSecond : Int := -8334601228800

/-- The last second of the last year. -/
def lastSecond : Int := 8210266876799

/-- The nanoseconds of the earliest and of the latest instant. -/
def firstNano : Int := firstSecond * second
def lastNano : Int := lastSecond * second + (second - 1)

/-- A point of time, as nanoseconds since the beginning of 1970. -/
structure Instant where
  nanos : Int
  mem : firstNano ≤ nanos ∧ nanos ≤ lastNano
  deriving DecidableEq

namespace Instant

/-- The instant at a number of nanoseconds, if it can be held. -/
def ofNanos? (n : Int) : Option Instant :=
  if h : firstNano ≤ n ∧ n ≤ lastNano then some ⟨n, h⟩ else none

/-- The instant at a number of nanoseconds, or the nearest one that can be held. -/
def clamp (n : Int) : Instant :=
  if low : n < firstNano then ⟨firstNano, by decide⟩
  else if high : lastNano < n then ⟨lastNano, by decide⟩
  else ⟨n, by omega⟩

/-- The beginning of 1970. -/
def epoch : Instant := ⟨0, by decide⟩

/-- The earliest and the latest instant. -/
def earliest : Instant := ⟨firstNano, by decide⟩
def latest : Instant := ⟨lastNano, by decide⟩

instance : Inhabited Instant := ⟨epoch⟩

instance : LE Instant := ⟨fun a b => a.nanos ≤ b.nanos⟩
instance : LT Instant := ⟨fun a b => a.nanos < b.nanos⟩
instance (a b : Instant) : Decidable (a ≤ b) := inferInstanceAs (Decidable (a.nanos ≤ b.nanos))
instance (a b : Instant) : Decidable (a < b) := inferInstanceAs (Decidable (a.nanos < b.nanos))

/-- Whole seconds since the beginning of 1970, rounded down. -/
def unixSeconds (t : Instant) : Int := t.nanos / second

/-- Nanoseconds beyond the whole seconds. -/
def subNanos (t : Instant) : Nat := (t.nanos % second).toNat

/-- The instant a duration later, if it can be held. -/
def add? (t : Instant) (d : Duration) : Option Instant := ofNanos? (t.nanos + d.cut.nanos)

/-- The instant a duration earlier, or the earliest one if that cannot be held. -/
def subOrEarliest (t : Instant) (d : Duration) : Instant :=
  (ofNanos? (t.nanos - d.cut.nanos)).getD earliest

/-- The time from `t` on to `u`, if `u` is not earlier. -/
def until? (t u : Instant) : Option Duration :=
  if t.nanos ≤ u.nanos then some ⟨(u.nanos - t.nanos).toNat⟩ else none

/-- The instant without what lies beyond its whole microseconds. -/
def toMicros (t : Instant) : Instant := clamp (t.nanos / 1000 * 1000)

theorem ofNanos?_eq_some {n : Int} {t : Instant} : ofNanos? n = some t ↔ t.nanos = n := by
  unfold ofNanos?
  constructor
  · intro h
    split at h
    · simp only [Option.some.injEq] at h; rw [← h]
    · exact absurd h (by simp)
  · intro h
    have := t.mem
    rw [dif_pos (h ▸ this)]
    cases t
    subst h
    rfl

theorem ofNanos?_eq_none {n : Int} : ofNanos? n = none ↔ n < firstNano ∨ lastNano < n := by
  unfold ofNanos?
  split <;> simp <;> omega

/-- No two instants lie as far apart as the longest length of time. -/
theorem lastNano_lt : lastNano < firstNano + Duration.longest.nanos := by decide

/-- That a length is cut makes no difference: moved by more than the longest, no instant can be
held. -/
theorem add?_eq_some {t u : Instant} {d : Duration} :
    t.add? d = some u ↔ u.nanos = t.nanos + d.nanos := by
  have hfar := lastNano_lt
  have ht := t.mem
  have hu := u.mem
  unfold add? Duration.cut
  rw [ofNanos?_eq_some]
  dsimp only
  omega

theorem add?_eq_none {t : Instant} {d : Duration} :
    t.add? d = none ↔ lastNano < t.nanos + d.nanos := by
  have hfar := lastNano_lt
  have ht := t.mem
  unfold add? Duration.cut
  rw [ofNanos?_eq_none]
  dsimp only
  omega

/-- What lies before an instant that is moved back is told by the numbers, also where that instant
cannot be held: nothing lies before the earliest one. -/
theorem lt_subOrEarliest {t u : Instant} {d : Duration} :
    u < t.subOrEarliest d ↔ u.nanos < t.nanos - d.nanos := by
  have hfar := lastNano_lt
  have ht := t.mem
  have hu := u.mem
  change u.nanos < ((ofNanos? (t.nanos - d.cut.nanos)).getD earliest).nanos ↔ _
  unfold Duration.cut
  dsimp only
  cases hs : ofNanos? (t.nanos - (min d.nanos Duration.longest.nanos : Nat)) with
  | none =>
    have hn := ofNanos?_eq_none.1 hs
    change u.nanos < firstNano ↔ _
    omega
  | some v =>
    have hv := ofNanos?_eq_some.1 hs
    have hmem := v.mem
    change u.nanos < v.nanos ↔ _
    omega

end Instant

/-! ## Text -/

/-- A fraction of a second in 0, 3, 6 or 9 digits, the fewest that are exact. -/
def shortFraction (nanos : Nat) : String :=
  if nanos = 0 then ""
  else if nanos % 1000000 = 0 then "." ++ Text.Decimal.padded 3 (nanos / 1000000)
  else if nanos % 1000 = 0 then "." ++ Text.Decimal.padded 6 (nanos / 1000)
  else "." ++ Text.Decimal.padded 9 nanos

/-- The calendar day, the time of day and a `Z`; `second` may be told apart from the instant's own
for a leap second. -/
def clockText (unixSeconds : Int) (secondOfMinute nanos : Nat) : String :=
  let (year, month, day) := partsOfDays (unixSeconds / 86400)
  let ofDay := (unixSeconds % 86400).toNat
  partsText year month day ++ "T" ++ Text.Decimal.padded 2 (ofDay / 3600) ++ ":" ++
    Text.Decimal.padded 2 (ofDay / 60 % 60) ++ ":" ++ Text.Decimal.padded 2 secondOfMinute ++
    shortFraction nanos ++ "Z"

/-- The instant as text, in universal time. -/
def Instant.text (t : Instant) : String :=
  clockText t.unixSeconds (t.unixSeconds % 60).toNat t.subNanos

end SignIn.Time
