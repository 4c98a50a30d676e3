-- The cache in memory. An entry whose time is over is dropped when its key
-- is next touched. Time is that of a clock which never goes back, in
-- nanoseconds.
import SignIn.Cache.Request

namespace SignIn.Cache

/-- A value and the time at which it is over. -/
structure Entry where
  value : String
  expiresAt : Nat
  deriving DecidableEq, Repr

/-- The state of the cache: its entries by key, no key twice. -/
structure Memory where
  entries : List (String × Entry)
  deriving DecidableEq, Repr

namespace Memory

def empty : Memory := ⟨[]⟩

/-- The entry of a key, over or not. -/
def find? (m : Memory) (key : String) : Option Entry := m.entries.lookup key

/-- The cache without a key. -/
def erase (m : Memory) (key : String) : Memory := ⟨m.entries.filter fun (k, _) => k != key⟩

/-- The cache with an entry in place of any other of its key. -/
def put (m : Memory) (key : String) (e : Entry) : Memory := ⟨(key, e) :: (m.erase key).entries⟩

/-- The entry of a key that is not over, and the cache without one that is. -/
def live (m : Memory) (now : Nat) (key : String) : Option Entry × Memory :=
  match m.find? key with
  | none => (none, m)
  | some e => if now < e.expiresAt then (some e, m) else (none, m.erase key)

def set (m : Memory) (now : Nat) (key value : String) (lifetime : Time.Duration) : Memory :=
  m.put key ⟨value, now + lifetime.nanos⟩

def get (m : Memory) (now : Nat) (key : String) : Option String × Memory :=
  let (e, m) := m.live now key
  (e.map Entry.value, m)

def delete (m : Memory) (now : Nat) (key : String) : Bool × Memory :=
  let (e, m) := m.live now key
  (e.isSome, m.erase key)

/-- The time left is never zero: an entry without time is over. -/
def timeLeft (m : Memory) (now : Nat) (key : String) : Option Time.Duration × Memory :=
  let (e, m) := m.live now key
  ((e.map fun e => (⟨e.expiresAt - now⟩ : Time.Duration)).filter (fun d => d.nanos != 0), m)

/-- The answer to a question at `now`, and the cache afterwards. -/
def answer (m : Memory) (now : Nat) : (q : Request) → q.Answer × Memory
  | .set key value lifetime => ((), m.set now key value lifetime)
  | .get key => m.get now key
  | .delete key => m.delete now key
  | .timeLeft key => m.timeLeft now key

end Memory

end SignIn.Cache
