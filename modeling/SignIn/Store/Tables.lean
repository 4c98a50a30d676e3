-- The credential store in the tables of a database: what each question sends
-- and what it makes of the replies. Of a refresh token only its digest is
-- ever sent.
import SignIn.Store.Request
import SignIn.Store.Sql
import SignIn.Digest.Sha2
import SignIn.Float64
import SignIn.Text.Utf8

namespace SignIn.Store.Tables

open Sql

/-! ## Statements -/

/-- What stands for a refresh token in the tables. -/
def tokenDigest (token : String) : String := Codec.Hex.encode (Digest.sha256 (Text.utf8 token))

/-- The digest of a token as a parameter. -/
def tokenParam (token : String) : Value := .text (tokenDigest token)

def insertUser (u : NewUser) : Statement where
  text := lines ["INSERT INTO users (name, surname, gender, birth_date, height_cm, weight_kg,",
    "sport_activity_level_id, town_id, role_id, phone_number, email, password,",
    "is_have_injury, injury_description, photo) VALUES ($1, $2, $3, $4, $5, $6, $7, $8,",
    "COALESCE($9, (SELECT id FROM roles WHERE name = 'guest')),",
    "$10, $11, $12, $13, $14, $15) RETURNING id"]
  params := [.text u.person.name, .text u.person.surname, .text u.person.gender, .date u.birthDate,
    .optional .int u.person.heightCm, .optional .int u.person.weightKg,
    .optional .int u.person.activityLevel, .optional .int u.person.town, .optional .int u.role,
    .text u.phone, .text u.email, .text u.passwordHash, .bool u.person.injured,
    .optional .text u.person.injury, .optional .text u.person.photo]

/-- The columns of an account, in order. -/
def userColumns : String :=
  lines ["id, name, surname, gender, birth_date, height_cm, weight_kg, sport_activity_level_id,",
    "town_id, role_id, phone_number, is_phone_verified, email, is_email_verified, is_have_injury,",
    "injury_description, photo, created_at, updated_at"]

def selectUser (id : Int) : Statement :=
  ⟨lines ["SELECT", userColumns, "FROM users WHERE id = $1 AND deleted_at IS NULL"], [.int id]⟩

def selectByPhone (phone : String) : Statement :=
  ⟨lines ["SELECT", userColumns, "FROM users WHERE phone_number = $1 AND deleted_at IS NULL"],
    [.text phone]⟩

def selectCredentials (email : String) : Statement :=
  ⟨"SELECT id, email, password FROM users WHERE email = $1 AND deleted_at IS NULL", [.text email]⟩

def selectEmailExists (email : String) : Statement :=
  ⟨"SELECT EXISTS(SELECT 1 FROM users WHERE email = $1 AND deleted_at IS NULL)", [.text email]⟩

def markDeleted (id : Int) : Statement :=
  ⟨"UPDATE users SET deleted_at = now(), updated_at = now() WHERE id = $1 AND deleted_at IS NULL",
    [.int id]⟩

def selectPermissions (role : Int) : Statement :=
  ⟨lines ["SELECT p.name FROM role_permissions rp JOIN permissions p ON p.id = rp.permission_id",
    "WHERE rp.role_id = $1 ORDER BY p.name"], [.int role]⟩

def insertToken (userId : Int) (token : String) (expiresAt : Time.Instant) : Statement :=
  ⟨"INSERT INTO refresh_tokens (user_id, token_hash, expires_at) VALUES ($1, $2, $3)",
    [.int userId, tokenParam token, .ofInstant expiresAt]⟩

def selectToken (token : String) : Statement :=
  ⟨lines ["SELECT id, user_id, created_at, expires_at, revoked_at FROM refresh_tokens",
    "WHERE token_hash = $1"], [tokenParam token]⟩

/-- Revokes the old token if it is active, and stores the new one if that was done. -/
def replaceToken (userId : Int) (old new : String) (expiresAt : Time.Instant) : Statement :=
  ⟨lines ["WITH revoked AS ( UPDATE refresh_tokens SET revoked_at = now()",
    "WHERE user_id = $1 AND token_hash = $2 AND revoked_at IS NULL AND expires_at > now()",
    "RETURNING id ) INSERT INTO refresh_tokens (user_id, token_hash, expires_at)",
    "SELECT $1, $3, $4 WHERE EXISTS (SELECT 1 FROM revoked)"],
    [.int userId, tokenParam old, tokenParam new, .ofInstant expiresAt]⟩

def markRevoked (token : String) : Statement :=
  ⟨"UPDATE refresh_tokens SET revoked_at = now() WHERE token_hash = $1 AND revoked_at IS NULL",
    [tokenParam token]⟩

def markAllRevoked (userId : Int) : Statement :=
  ⟨"UPDATE refresh_tokens SET revoked_at = now() WHERE user_id = $1 AND revoked_at IS NULL",
    [.int userId]⟩

/-- The whole seconds of a duration as a parameter, of which a database takes less than 2^63. -/
def secondsParam (d : Time.Duration) : Value :=
  .float (Float64.nearest (min d.seconds 0x7FFFFFFFFFFFFFFF))

def deleteOld (olderThan : Time.Duration) : Statement :=
  ⟨lines ["DELETE FROM refresh_tokens WHERE (revoked_at IS NOT NULL AND",
    "revoked_at < now() - make_interval(secs => $1)) OR",
    "expires_at < now() - make_interval(secs => $1)"], [secondsParam olderThan]⟩

/-! ## Rows -/

def readId : Columns Int := column Value.toInt

def readUser : Columns User := do
  let id ← column Value.toInt
  let name ← column Value.toText
  let surname ← column Value.toText
  let gender ← column Value.toText
  let birthDate ← column Value.toDate
  let heightCm ← optionalColumn Value.toInt
  let weightKg ← optionalColumn Value.toInt
  let activityLevel ← optionalColumn Value.toInt
  let town ← optionalColumn Value.toInt
  let role ← optionalColumn Value.toInt
  let phone ← column Value.toText
  let phoneVerified ← column Value.toBool
  let email ← column Value.toText
  let emailVerified ← column Value.toBool
  let injured ← column Value.toBool
  let injury ← optionalColumn Value.toText
  let photo ← optionalColumn Value.toText
  let createdAt ← column Value.toInstant
  let updatedAt ← column Value.toInstant
  return {
    id, birthDate, role, phone, phoneVerified, email, emailVerified
    person :=
      { name, surname, gender, heightCm, weightKg, activityLevel, town, injured, injury, photo }
    createdAt := .ofInstant createdAt
    updatedAt := .ofInstant updatedAt }

def readCredentials : Columns Credentials := do
  return ⟨← column Value.toInt, ← column Value.toText, ← column Value.toText⟩

def readRecord : Columns RefreshRecord := do
  return ⟨← column Value.toInt, ← column Value.toInt, ← column Value.toInstant,
    ← column Value.toInstant, ← optionalColumn Value.toInstant⟩

/-! ## Questions -/

/-- Replaces a token within a transaction: what was not done is rolled back. -/
def rotate (userId : Int) (old new : String) (expiresAt : Time.Instant) : Exchange Bool :=
  transaction (do
    let outcome ← send failedOrConflict (replaceToken userId old new expiresAt)
    if outcome.affected = 0 then
      let _ ← send failed rollback
      return false
    let _ ← send failed commit
    return true)

/-- Leads a question to its answer. -/
def exchange : (q : Request) → Exchange q.Answer
  | .createUser u => do ofExcept (readFirst readId (← send failedOrConflict (insertUser u)))
  | .findUser id => do ofExcept (readFirst? readUser (← send failed (selectUser id)))
  | .findCredentials email => do
    ofExcept (readFirst? readCredentials (← send failed (selectCredentials email)))
  | .findByPhone phone => do ofExcept (readFirst? readUser (← send failed (selectByPhone phone)))
  | .emailExists email => do
    ofExcept (readFirst (column Value.toBool) (← send failed (selectEmailExists email)))
  | .softDelete id => do return decide (0 < (← send failed (markDeleted id)).affected)
  | .permissionsOf role => do
    ofExcept (readAll (column Value.toText) (← send failed (selectPermissions role)))
  | .createToken userId token expiresAt => do
    let _ ← send failedOrConflict (insertToken userId token expiresAt)
  | .findToken token => do ofExcept (readFirst? readRecord (← send failed (selectToken token)))
  | .rotateToken userId old new expiresAt => rotate userId old new expiresAt
  | .revokeToken token => do return decide (0 < (← send failed (markRevoked token)).affected)
  | .revokeAll userId => do return (← send failed (markAllRevoked userId)).affected
  | .purge olderThan => do return (← send failed (deleteOld olderThan)).affected

/-- A pool that lends out one connection, until it is closed. -/
structure Pool where
  connection : Connection
  isClosed : Bool

/-- What asking a closed pool comes to. -/
def closedPool : StoreError := .database "attempted to acquire a connection on a closed pool"

/-- Answers a question. A caller who has given up sends nothing, and a closed pool neither. -/
def Pool.answer (cancelled : Bool) (p : Pool) (q : Request) : Except NoAnswer q.Answer × Pool :=
  if cancelled then (.error (.failure .cancelled), p)
  else if p.isClosed then (.error (.failure closedPool), p)
  else
    let (a, c) := p.connection.run (exchange q).run
    (a, { p with connection := c })

end SignIn.Store.Tables
