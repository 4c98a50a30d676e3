-- The questions to the cache of values that live for a time.
import SignIn.Time.Instant
import SignIn.Error

namespace SignIn.Cache

/-- A question to the cache. -/
inductive Request
  /-- Stores a value in place of any other. -/
  | set (key value : String) (lifetime : Time.Duration)
  | get (key : String)
  /-- Removes a key. Answers whether it was there. -/
  | delete (key : String)
  /-- The time a key has left. -/
  | timeLeft (key : String)
  deriving DecidableEq

/-- What a question is answered with. -/
def Request.Answer : Request → Type
  | .set _ _ _ => Unit
  | .get _ => Option String
  | .delete _ => Bool
  | .timeLeft _ => Option Time.Duration

/-- The name of the question. -/
def Request.name : Request → String
  | .set _ _ _ => "cache.set"
  | .get _ => "cache.get"
  | .delete _ => "cache.delete"
  | .timeLeft _ => "cache.ttl"

end SignIn.Cache
