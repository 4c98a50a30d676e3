-- Operations as programs: what they ask of the world around them, one
-- question at a time, and how they go on from each answer. All that can
-- happen between two questions of an operation is seen from outside.
import SignIn.Dialog
import SignIn.Store.Request
import SignIn.Cache.Request

namespace SignIn

/-- A question that an operation asks of the world. -/
inductive Ask
  /-- What time it is. -/
  | clock
  | store (q : Store.Request)
  | cache (q : Cache.Request)
  /-- Hands a one-time code to its owner. -/
  | deliver (identifier code : String)
  /-- An id that no token has had. -/
  | freshId
  /-- A random one-time code. -/
  | freshCode
  /-- Sixteen random bytes. -/
  | freshSalt

/-- What a question is answered with. -/
def Ask.Answer : Ask → Type
  | .clock => Time.Instant
  | .store q => Except StoreError q.Answer
  | .cache q => Except CacheError q.Answer
  | .deliver _ _ => Except AuthError Unit
  | .freshId => String
  | .freshCode => String
  | .freshSalt => List UInt8

/-- An operation, as the dialog that it leads with the world. -/
abbrev Program : Type → Type := Dialog Ask Ask.Answer

/-- Asks the world one question. -/
def Program.lift (q : Ask) : Program q.Answer := Dialog.lift q

/-- An operation that may fail. -/
abbrev Operation (α : Type) := ExceptT AuthError Program α

namespace Operation

/-- Asks a question that is always answered. -/
def ask (q : Ask) : Operation q.Answer := ExceptT.lift (Program.lift q)

/-- Asks the store; `onError` says what its failure means. -/
def storeOr (onError : StoreError → AuthError) (q : Store.Request) : Operation q.Answer :=
  ExceptT.mk (do
    match ← Program.lift (.store q) with
    | .ok a => pure (.ok a)
    | .error e => pure (.error (onError e)))

/-- Asks the cache; `onError` says what its failure means. -/
def cacheOr (onError : CacheError → AuthError) (q : Cache.Request) : Operation q.Answer :=
  ExceptT.mk (do
    match ← Program.lift (.cache q) with
    | .ok a => pure (.ok a)
    | .error e => pure (.error (onError e)))

/-- Asks the store. -/
def store (q : Store.Request) : Operation q.Answer := storeOr .repository q

/-- Asks the cache. -/
def cache (q : Cache.Request) : Operation q.Answer := cacheOr .cache q

/-- What time it is. -/
def clock : Operation Time.Instant := ask .clock

end Operation

end SignIn
