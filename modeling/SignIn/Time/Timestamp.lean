-- Readings of a universal-time clock as they are written on the wire. A
-- clock may show a sixtieth second, which no instant has of its own.
import SignIn.Time.Reading

namespace SignIn.Time

/-- What a clock shows: an instant, or the leap second that follows the second it lies in. -/
structure Timestamp where
  instant : Instant
  leap : Bool
  leap_mem : leap = true → instant.unixSeconds % 60 = 59
  deriving DecidableEq

namespace Timestamp

/-- What a clock shows at an instant. -/
def ofInstant (t : Instant) : Timestamp := ⟨t, false, by simp⟩

/-- The reading as text. -/
def text (t : Timestamp) : String :=
  clockText t.instant.unixSeconds
    (if t.leap then 60 else (t.instant.unixSeconds % 60).toNat) t.instant.subNanos

/-- The seconds of a day; the leap second counts as the one before it. -/
def secondsOfDay (fs : Fields) : Int :=
  ((fs.get .halfDay).getD 0 * 12 + (fs.get .hourOfHalf).getD 0) * 3600 +
    (fs.get .minute).getD 0 * 60 + min ((fs.get .second).getD 0) 59

/-- The reading that fields with a date, a time of day and an offset stand for. The offset must be
less than a day. -/
def ofFields? (fs : Fields) : Option Timestamp := do
  let date ← (fs.date).toOption
  let offset := (fs.get .offset).getD 0
  if offset ≤ -86400 ∨ 86400 ≤ offset then none
  else
    let seconds := date.toDays * 86400 + secondsOfDay fs - offset
    let instant ← Instant.ofNanos? (seconds * second + (fs.get .nanosecond).getD 0)
    let leap := fs.get .second == some 60
    if h : leap = true → instant.unixSeconds % 60 = 59 then some ⟨instant, leap, h⟩ else none

/-- The reading that a text names. White space may follow it. -/
def ofText? (text : String) : Option Timestamp :=
  match readDateTime Fields.empty text.toList with
  | .ok (fs, rest) => if (Text.trimStart rest).isEmpty then ofFields? fs else none
  | .error _ => none

end Timestamp

end SignIn.Time
