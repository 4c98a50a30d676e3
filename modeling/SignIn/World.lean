-- The world that operations run in: two clocks, a store and a cache in
-- memory, the supplies of fresh things, the one-time codes that have been
-- delivered, and the calls that are to fail.
import SignIn.Program
import SignIn.Supply
import SignIn.Store.Memory
import SignIn.Cache.Memory

namespace SignIn

/-- The failure of a call. -/
inductive Failure
  | store (e : StoreError)
  | cache (e : CacheError)
  deriving DecidableEq, Repr

/-- A failure that is to come: all calls of a name fail after so many more that pass. -/
structure Fault where
  call : String
  passes : Nat
  failure : Failure
  deriving DecidableEq, Repr

/-- Where one-time codes go. -/
inductive Delivery
  /-- Nowhere but a log. -/
  | log
  /-- Into the world's outbox; then the delivery may fail. -/
  | outbox (failure : Option AuthError)
  deriving DecidableEq, Repr

/-- The world around the operations. -/
structure World where
  /-- The wall clock. -/
  now : Time.Instant
  /-- The clock that never goes back, in nanoseconds. -/
  ticks : Nat
  store : Store.Memory
  cache : Cache.Memory
  ids : Supply String
  codes : Supply String
  salts : Supply (List UInt8)
  delivery : Delivery
  /-- The delivered codes with their identifiers, oldest first. -/
  outbox : List (String × String)
  faults : List Fault

namespace World

/-! ## Failures to come -/

/-- Sets a failure in place of any other of the same calls. -/
def addFault (w : World) (f : Fault) : World :=
  { w with faults := f :: w.faults.filter fun g => g.call != f.call }

/-- The failure of the next call of a name, if it fails, and the world after that call. -/
def nextFailure (w : World) (call : String) : Option Failure × World :=
  match w.faults.find? (·.call == call) with
  | none => (none, w)
  | some f =>
    if f.passes = 0 then (some f.failure, w)
    else (none, w.addFault { f with passes := f.passes - 1 })

/-! ## Answers -/

/-- Answers a question to the store. A failure that is due comes first, then the caller's giving
up. -/
def answerStore (cancelled : Bool) (w : World) (q : Store.Request) :
    Except StoreError q.Answer × World :=
  match w.nextFailure q.name with
  | (some (.store e), w) => (.error e, w)
  | (_, w) =>
    if cancelled then (.error .cancelled, w)
    else
      let (a, store) := w.store.answer w.now q
      (a, { w with store := store })

/-- Answers a question to the cache, in the same way. -/
def answerCache (cancelled : Bool) (w : World) (q : Cache.Request) :
    Except CacheError q.Answer × World :=
  match w.nextFailure q.name with
  | (some (.cache e), w) => (.error e, w)
  | (_, w) =>
    if cancelled then (.error .cancelled, w)
    else
      let (a, cache) := w.cache.answer w.ticks q
      (.ok a, { w with cache := cache })

/-- Delivers a one-time code. -/
def answerDelivery (w : World) (identifier code : String) : Except AuthError Unit × World :=
  match w.delivery with
  | .log => (.ok (), w)
  | .outbox failure =>
    let w := { w with outbox := w.outbox ++ [(identifier, code)] }
    match failure with
    | none => (.ok (), w)
    | some e => (.error e, w)

/-- Answers a question. `cancelled` says whether the caller has given up. -/
def answer (cancelled : Bool) (w : World) : (q : Ask) → q.Answer × World
  | .clock => (w.now, w)
  | .store q => w.answerStore cancelled q
  | .cache q => w.answerCache cancelled q
  | .deliver identifier code => w.answerDelivery identifier code
  | .freshId => let (a, s) := w.ids.next; (a, { w with ids := s })
  | .freshCode => let (a, s) := w.codes.next; (a, { w with codes := s })
  | .freshSalt => let (a, s) := w.salts.next; (a, { w with salts := s })

/-! ## Runs -/

/-- Runs an operation to its end. -/
def run {α : Type} (cancelled : Bool) (w : World) (p : Program α) : α × World :=
  Dialog.run (answer cancelled) w p

/-- Runs operations that meet at a question of a kind. -/
def race {α : Type} (cancelled : Bool) (stop : Ask → Bool) (w : World) (ps : List (Program α)) :
    List α × World :=
  Dialog.race stop (answer cancelled) w ps

/-! ## A clock that cannot be read -/

/-- Whether the wall clock can be read, which it cannot while it stands before 1970. -/
def isClockReadable (w : World) : Bool := decide (Time.Instant.epoch ≤ w.now)

/-- Whether a question gets as far as the store. -/
def reachesStore (cancelled : Bool) (w : World) (q : Store.Request) : Bool :=
  match (w.nextFailure q.name).1 with
  | some (.store _) => false
  | _ => !cancelled

/-- Whether answering a question takes a look at the wall clock. -/
def needsClock (cancelled : Bool) (w : World) : Ask → Bool
  | .clock => true
  | .store q => w.reachesStore cancelled q && w.store.needsTime q
  | _ => false

/-- Answers a question, and notes whether a look at the wall clock has been needed yet. -/
def answerNoting (cancelled : Bool) (s : World × Bool) (q : Ask) : q.Answer × (World × Bool) :=
  ((s.1.answer cancelled q).1, ((s.1.answer cancelled q).2, s.2 || s.1.needsClock cancelled q))

/-- Whether an operation breaks off: it takes a look at the wall clock, which cannot be read. -/
def breaksOff {α : Type} (cancelled : Bool) (w : World) (p : Program α) : Bool :=
  !w.isClockReadable && (Dialog.run (answerNoting cancelled) (w, false) p).2.2

/-- Runs an operation to its end, unless it breaks off. -/
def run? {α : Type} (cancelled : Bool) (w : World) (p : Program α) : Option (α × World) :=
  if w.breaksOff cancelled p then none else some (w.run cancelled p)

/-- Whether one of several operations that meet at a question breaks off. -/
def raceBreaksOff {α : Type} (cancelled : Bool) (stop : Ask → Bool) (w : World)
    (ps : List (Program α)) : Bool :=
  !w.isClockReadable && (Dialog.race stop (answerNoting cancelled) (w, false) ps).2.2

/-- Runs operations that meet at a question of a kind, unless one of them breaks off. -/
def race? {α : Type} (cancelled : Bool) (stop : Ask → Bool) (w : World) (ps : List (Program α)) :
    Option (List α × World) :=
  if w.raceBreaksOff cancelled stop ps then none else some (w.race cancelled stop ps)

/-- While the wall clock can be read, no operation breaks off. -/
theorem run?_of_isClockReadable {α : Type} (cancelled : Bool) {w : World} (p : Program α)
    (h : w.isClockReadable) : w.run? cancelled p = some (w.run cancelled p) := by
  simp [run?, breaksOff, h]

/-! ## Time passing -/

/-- Moves both clocks on. The wall clock stops at the ends of time. -/
def advance (w : World) (wallNanos : Int) (tickNanos : Nat) : World :=
  { w with now := Time.Instant.clamp (w.now.nanos + wallNanos), ticks := w.ticks + tickNanos }

end World

end SignIn
