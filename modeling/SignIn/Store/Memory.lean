-- The credential store in memory: accounts that are deleted by a mark only,
-- live emails and phones that are unique, and refresh tokens by their text.
import SignIn.Store.Request

namespace SignIn.Store

/-- An account with its password and the mark of its deletion. -/
structure Row where
  user : User
  passwordHash : String
  deletedAt : Option Time.Instant
  deriving DecidableEq

/-- Whether the account is not deleted. -/
def Row.isLive (r : Row) : Bool := r.deletedAt.isNone

/-- The state of the store. -/
structure Memory where
  /-- The accounts, oldest first. -/
  rows : List Row
  /-- The id of the latest account. -/
  lastUserId : Int
  roles : List (Int × List String)
  /-- The role of an account that is created without one. -/
  defaultRole : Option Int
  /-- The records of the refresh tokens by their text, oldest first. -/
  tokens : List (String × RefreshRecord)
  /-- The id of the latest record. -/
  lastTokenId : Int
  deriving DecidableEq

namespace Memory

/-- A store without accounts and tokens. The permissions of each role are put in order. -/
def empty (roles : List (Int × List String)) (defaultRole : Option Int) : Memory where
  rows := []
  lastUserId := 0
  roles := roles.map fun (role, names) => (role, names.mergeSort)
  defaultRole := defaultRole
  tokens := []
  lastTokenId := 0

/-! ## Accounts -/

/-- The accounts that are not deleted. -/
def liveRows (m : Memory) : List Row := m.rows.filter Row.isLive

/-- Whether a live account has the email or the phone. -/
def isTaken (m : Memory) (email phone : String) : Bool :=
  m.liveRows.any fun r => r.user.email == email || r.user.phone == phone

/-- The row of a new account. -/
def newRow (m : Memory) (now : Time.Instant) (u : NewUser) : Row where
  user :=
    { id := m.lastUserId + 1, person := u.person, birthDate := u.birthDate
      role := u.role.or m.defaultRole, phone := u.phone, phoneVerified := false, email := u.email
      emailVerified := false, createdAt := .ofInstant now, updatedAt := .ofInstant now }
  passwordHash := u.passwordHash
  deletedAt := none

def createUser (m : Memory) (now : Time.Instant) (u : NewUser) : Except StoreError Int × Memory :=
  if m.isTaken u.email u.phone then
    (.error (.conflict "email or phone number already registered"), m)
  else
    (.ok (m.lastUserId + 1),
      { m with rows := m.rows ++ [m.newRow now u], lastUserId := m.lastUserId + 1 })

def findUser (m : Memory) (id : Int) : Option User :=
  (m.liveRows.find? fun r => r.user.id == id).map Row.user

def findCredentials (m : Memory) (email : String) : Option Credentials :=
  (m.liveRows.find? fun r => r.user.email == email).map fun r =>
    ⟨r.user.id, r.user.email, r.passwordHash⟩

def findByPhone (m : Memory) (phone : String) : Option User :=
  (m.liveRows.find? fun r => r.user.phone == phone).map Row.user

def emailExists (m : Memory) (email : String) : Bool :=
  m.liveRows.any fun r => r.user.email == email

/-- The row with the mark of deletion. -/
def Row.deleted (r : Row) (now : Time.Instant) : Row :=
  { r with user := { r.user with updatedAt := .ofInstant now }, deletedAt := some now }

def softDelete (m : Memory) (now : Time.Instant) (id : Int) : Bool × Memory :=
  if m.liveRows.any fun r => r.user.id == id then
    (true, { m with
      rows := m.rows.map fun r =>
        if r.user.id == id && r.isLive then Row.deleted r now else r })
  else (false, m)

/-- The permissions of a role; a role that is not there has none. -/
def permissionsOf (m : Memory) (role : Int) : List String := (m.roles.lookup role).getD []

/-! ## Refresh tokens -/

/-- The record of a token. -/
def findToken (m : Memory) (token : String) : Option RefreshRecord := m.tokens.lookup token

/-- The records with those of one token changed. -/
def mapToken (m : Memory) (token : String) (f : RefreshRecord → RefreshRecord) : Memory :=
  { m with tokens := m.tokens.map fun (t, r) => if t = token then (t, f r) else (t, r) }

/-- Stores the record of a token. It takes the place of one that the token already has. -/
def putToken (m : Memory) (now : Time.Instant) (userId : Int) (token : String)
    (expiresAt : Time.Instant) : Memory :=
  let id := m.lastTokenId + 1
  let record : RefreshRecord := ⟨id, userId, now, expiresAt, none⟩
  { m with
    tokens := m.tokens.filter (fun (t, _) => t != token) ++ [(token, record)]
    lastTokenId := id }

def createToken (m : Memory) (now : Time.Instant) (userId : Int) (token : String)
    (expiresAt : Time.Instant) : Except StoreError Unit × Memory :=
  if (m.findToken token).isSome then (.error (.conflict "refresh token already stored"), m)
  else (.ok (), m.putToken now userId token expiresAt)

/-- The record of a token that is revoked now. -/
def revokedAt (now : Time.Instant) (r : RefreshRecord) : RefreshRecord :=
  { r with revokedAt := some now }

def rotateToken (m : Memory) (now : Time.Instant) (userId : Int) (old new : String)
    (expiresAt : Time.Instant) : Bool × Memory :=
  match m.findToken old with
  | none => (false, m)
  | some r =>
    if r.userId = userId ∧ r.isActive now then
      (true, (m.mapToken old (revokedAt now)).putToken now userId new expiresAt)
    else (false, m)

def revokeToken (m : Memory) (now : Time.Instant) (token : String) : Bool × Memory :=
  match m.findToken token with
  | none => (false, m)
  | some r => if r.isRevoked then (false, m) else (true, m.mapToken token (revokedAt now))

/-- Whether a record is the user's and not revoked. -/
def isUnrevokedOf (userId : Int) (r : RefreshRecord) : Bool := r.userId == userId && !r.isRevoked

def revokeAll (m : Memory) (now : Time.Instant) (userId : Int) : Nat × Memory :=
  (m.tokens.countP fun (_, r) => isUnrevokedOf userId r,
    { m with
      tokens := m.tokens.map fun (t, r) =>
        if isUnrevokedOf userId r then (t, revokedAt now r) else (t, r) })

/-- Whether a record's token was revoked or over before an instant. -/
def isOlder (cutoff : Time.Instant) (r : RefreshRecord) : Bool :=
  decide (r.expiresAt < cutoff) ||
    (match r.revokedAt with
    | some at_ => decide (at_ < cutoff)
    | none => false)

def purge (m : Memory) (now : Time.Instant) (olderThan : Time.Duration) : Nat × Memory :=
  let cutoff := now.subOrEarliest olderThan
  let kept := m.tokens.filter fun (_, r) => !isOlder cutoff r
  (m.tokens.length - kept.length, { m with tokens := kept })

/-- Moves the stored end of a token to one second ago. -/
def expireToken (m : Memory) (now : Time.Instant) (token : String) : Memory :=
  m.mapToken token fun r => { r with expiresAt := now.subOrEarliest (.ofSeconds 1) }

/-- How many tokens of a user can be used. -/
def activeTokens (m : Memory) (now : Time.Instant) (userId : Int) : Nat :=
  m.tokens.countP fun (_, r) => r.userId == userId && r.isActive now

/-! ## Answers -/

/-- The answer to a question at `now`, and the store afterwards. -/
def answer (m : Memory) (now : Time.Instant) : (q : Request) → Except StoreError q.Answer × Memory
  | .createUser u => m.createUser now u
  | .findUser id => (.ok (m.findUser id), m)
  | .findCredentials email => (.ok (m.findCredentials email), m)
  | .findByPhone phone => (.ok (m.findByPhone phone), m)
  | .emailExists email => (.ok (m.emailExists email), m)
  | .softDelete id => let (a, m) := m.softDelete now id; (.ok a, m)
  | .permissionsOf role => (.ok (m.permissionsOf role), m)
  | .createToken userId token expiresAt => m.createToken now userId token expiresAt
  | .findToken token => (.ok (m.findToken token), m)
  | .rotateToken userId old new expiresAt =>
    let (a, m) := m.rotateToken now userId old new expiresAt; (.ok a, m)
  | .revokeToken token => let (a, m) := m.revokeToken now token; (.ok a, m)
  | .revokeAll userId => let (a, m) := m.revokeAll now userId; (.ok a, m)
  | .purge olderThan => let (a, m) := m.purge now olderThan; (.ok a, m)

/-- Whether the time matters for a question: something is to be marked with it or compared to it. -/
def needsTime (m : Memory) : Request → Bool
  | .createUser u => !m.isTaken u.email u.phone
  | .softDelete id => m.liveRows.any fun r => r.user.id == id
  | .createToken _ token _ => (m.findToken token).isNone
  | .rotateToken _ _ _ _ => true
  | .revokeToken token =>
    match m.findToken token with
    | some r => !r.isRevoked
    | none => false
  | .revokeAll _ => true
  | .purge _ => true
  | _ => false

/-- A question for which the time does not matter is answered the same at all times. -/
theorem answer_eq_of_not_needsTime {m : Memory} {q : Request} (h : m.needsTime q = false)
    (t u : Time.Instant) : m.answer t q = m.answer u q := by
  cases q with
  | createUser user =>
    have taken : m.isTaken user.email user.phone = true := by simpa [needsTime] using h
    simp only [answer, createUser, taken, if_true]
    rfl
  | softDelete id =>
    have absent : (m.liveRows.any fun r => r.user.id == id) = false := h
    simp only [answer, softDelete, absent, Bool.false_eq_true, if_false]
  | createToken userId token expiresAt =>
    have stored : (m.findToken token).isSome = true := by simpa [needsTime] using h
    simp only [answer, createToken, stored, if_true]
    rfl
  | revokeToken token =>
    cases found : m.findToken token with
    | none => simp [answer, revokeToken, found]
    | some r =>
      have revoked : r.isRevoked = true := by simpa [needsTime, found] using h
      simp [answer, revokeToken, found, revoked]
  | rotateToken userId old new expiresAt => simp [needsTime] at h
  | revokeAll userId => simp [needsTime] at h
  | purge olderThan => simp [needsTime] at h
  | findUser _ | findCredentials _ | findByPhone _ | emailExists _ | permissionsOf _
  | findToken _ => rfl

end Memory

end SignIn.Store
