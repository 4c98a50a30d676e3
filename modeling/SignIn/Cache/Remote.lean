-- The cache that a server keeps: the command that each question becomes, a
-- list of words, and what is made of the server's reply.
import SignIn.Cache.Request
import SignIn.Text.Decimal

namespace SignIn.Cache.Remote

/-- A reply of the server. -/
inductive Reply
  | status (text : String)
  | bulk (text : String)
  | int (n : Int)
  | nil
  | error (text : String)
  /-- No reply comes, until the caller gives up waiting. -/
  | silence
  deriving DecidableEq, Repr

/-- The time that a value is given: in whole milliseconds, at least one, at most what 64 bits
hold. -/
def lifetimeMillis (d : Time.Duration) : Nat := max 1 (min d.millis Text.Decimal.nat64High)

/-- The words of a question. -/
def command : Request → List String
  | .set key value lifetime => ["PSETEX", key, Text.Decimal.ofNat (lifetimeMillis lifetime), value]
  | .get key => ["GET", key]
  | .delete key => ["DEL", key]
  | .timeLeft key => ["PTTL", key]

/-- A reply that is no answer to the question. -/
def unreadable {α : Type} : Except CacheError α := .error (.client "unexpected reply")

/-- A reply as text, where there is one. -/
def readText : Reply → Except CacheError (Option String)
  | .status s => .ok (some s)
  | .bulk s => .ok (some s)
  | .int n => .ok (some (Text.Decimal.ofInt n))
  | .nil => .ok none
  | .error text => .error (.client text)
  | .silence => .error .cancelled

/-- A text as a number. -/
def readDecimal (s : String) : Except CacheError Int :=
  match Text.Decimal.parseInt? Text.Decimal.int64Low Text.Decimal.int64High s with
  | some n => .ok n
  | none => unreadable

/-- A reply as a number. -/
def readNumber : Reply → Except CacheError Int
  | .status s => readDecimal s
  | .bulk s => readDecimal s
  | .int n => .ok n
  | .nil => unreadable
  | .error text => .error (.client text)
  | .silence => .error .cancelled

/-- A reply of which only counts that it is no error. -/
def readDone : Reply → Except CacheError Unit
  | .error text => .error (.client text)
  | .silence => .error .cancelled
  | _ => .ok ()

/-- The time that a number of milliseconds stands for: none where the key is not there or has no
end. -/
def timeOfMillis (n : Int) : Option Time.Duration :=
  if 0 < n then some (.ofMillis n.toNat) else none

/-- What a reply says in answer to a question. -/
def readReply : (q : Request) → Reply → Except CacheError q.Answer
  | .set _ _ _, r => readDone r
  | .get _, r => readText r
  | .delete _, r => (readNumber r).map fun n => decide (0 < n)
  | .timeLeft _, r => (readNumber r).map timeOfMillis

/-- Puts a question to a server, whose state it may change. A caller who has given up sends
nothing. -/
def ask {σ : Type} (server : σ → List String → Reply × σ) (cancelled : Bool) (s : σ) (q : Request) :
    Except CacheError q.Answer × σ :=
  if cancelled then (.error .cancelled, s)
  else
    let (r, s) := server s (command q)
    (readReply q r, s)

end SignIn.Cache.Remote
