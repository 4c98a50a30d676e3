-- Operations on accounts: registering, signing in by password, looking up,
-- ending all sessions, deleting, and clearing out old refresh tokens.
import SignIn.Session.Tokens
import SignIn.Password.Bcrypt
import SignIn.Text.Lowercase

namespace SignIn.Session

open Operation
open Text (normalize)

/-- The birth date that a text names in the pattern. White space around it does not count. -/
def parseBirthDate (text pattern : String) : Except AuthError Time.Date :=
  match Time.Date.parse pattern (Text.trim text) with
  | .ok d => .ok d
  | .error e => .error (.parse ("birth date " ++ Text.quoted text ++ ": " ++ e.message))

/-- The account that a registration asks for. -/
def newUser (r : Registration) (email : String) (birthDate : Time.Date) (passwordHash : String) :
    NewUser :=
  { person := r.person, birthDate, role := r.role, phone := Text.trim r.phone, email, passwordHash }

/-- Creates an account and signs it in. -/
def register (s : Settings) (r : Registration) : Operation TokenPair := do
  let email := normalize r.email
  failIf email.isEmpty (.validation "email is required")
  failIf r.password.isEmpty (.validation "password is required")
  let birthDate ← ofExcept (parseBirthDate r.birthDate s.birthDatePattern)
  let passwordHash := Password.hash (← ask .freshSalt) r.password
  let userId ← store (.createUser (newUser r email birthDate passwordHash))
  createPair s userId email (← clock)

/-- Whether the password is the one of a stored hash. -/
def checkPassword (password hash : String) : Except AuthError Bool :=
  match Password.verify password hash with
  | .ok b => .ok b
  | .error e => .error (.internal ("bcrypt verify: " ++ e.message))

/-- Signs in by email and password. -/
def login (s : Settings) (email password : String) : Operation TokenPair := do
  let credentials ← orFail .userNotFound (← store (.findCredentials (normalize email)))
  let isRight ← ofExcept (checkPassword password credentials.passwordHash)
  failIf (!isRight) .invalidCredentials
  createPair s credentials.id credentials.email (← clock)

/-- Revokes all refresh tokens of a user and removes the liveness marker. -/
def revokeAll (s : Settings) (userId : Int) : Operation Nat := do
  let revoked ← store (.revokeAll userId)
  let _ ← cache (.delete (s.accessKey userId))
  return revoked

/-- Deletes an account and ends its sessions. -/
def deleteAccount (s : Settings) (userId : Int) : Operation Unit := do
  let found ← store (.softDelete userId)
  failIf (!found) .userNotFound
  let _ ← revokeAll s userId

/-- A user's account. -/
def profile (userId : Int) : Operation User := do
  orFail .userNotFound (← store (.findUser userId))

/-- Whether an account has the email. -/
def emailExists (email : String) : Operation Bool := store (.emailExists (normalize email))

/-- Clears out the refresh tokens that ended longer ago than they are kept. -/
def purge (s : Settings) : Operation Nat := store (.purge s.retention)

end SignIn.Session
