-- Bringing the schema of the database up to date: the scripts that the
-- program has, what the database says of those that it has run, and the steps
-- that are left to take.
import SignIn.Digest.Sha2
import SignIn.Text.Decimal
import SignIn.Text.Utf8

namespace SignIn.Store.Schema

/-! ## Migrations -/

/-- A script that takes the schema one version on. -/
structure Migration where
  version : Int
  description : String
  script : String

/-- The checksum by which a database knows a script again. -/
def Migration.checksum (m : Migration) : List UInt8 := Digest.sha384 (Text.utf8 m.script)

/-- What a database says of the scripts it has run. -/
structure Record where
  /-- The versions that were run, with the checksums of their scripts. -/
  applied : List (Int × List UInt8)
  /-- A version whose script was begun and not finished. -/
  unfinished : Option Int

/-- Why the schema could not be brought up to date. -/
inductive MigrationError
  | unfinished (version : Int)
  | unknown (version : Int)
  | modified (version : Int)
  | failed (version : Int) (text : String)
  deriving DecidableEq, Repr

def MigrationError.message : MigrationError → String
  | .unfinished v => "migration " ++ Text.Decimal.ofInt v ++
    " is partially applied; fix and remove row from `_sqlx_migrations` table"
  | .unknown v => "migration " ++ Text.Decimal.ofInt v ++
    " was previously applied but is missing in the resolved migrations"
  | .modified v => "migration " ++ Text.Decimal.ofInt v ++
    " was previously applied but has been modified"
  | .failed v text => "while executing migration " ++ Text.Decimal.ofInt v ++
    ": error returned from database: " ++ text

/-! ## Steps -/

/-- A step that the database sees. -/
inductive Step
  | lock
  | beginning
  | script (text : String)
  | applied (version : Int) (description : String) (checksum : List UInt8)
  | commit
  | rollback
  | unlock
  deriving DecidableEq, Repr

/-- The checksum that a database has for a version. Of several the last counts. -/
def Record.checksum? (r : Record) (version : Int) : Option (List UInt8) :=
  r.applied.reverse.lookup version

/-- Runs one script in a transaction. `failure` is the text with which the database refuses it. -/
def apply (m : Migration) (failure : Option String) : Except MigrationError Unit × List Step :=
  match failure with
  | some text => (.error (.failed m.version text), [.beginning, .script m.script, .rollback])
  | none => (.ok (),
    [.beginning, .script m.script, .applied m.version m.description m.checksum, .commit])

/-- Runs, one after the other, the scripts that the database has not run. A script that it has run
in another wording ends this, as does one that it refuses. -/
def applyAll (r : Record) (failure : Option String) :
    List Migration → Except MigrationError Unit × List Step
  | [] => (.ok (), [])
  | m :: ms =>
    match r.checksum? m.version with
    | some checksum =>
      if checksum = m.checksum then applyAll r failure ms
      else (.error (.modified m.version), [])
    | none =>
      match apply m failure with
      | (.error e, steps) => (.error e, steps)
      | (.ok _, steps) =>
        let (result, rest) := applyAll r failure ms
        (result, steps ++ rest)

/-- Brings a database up to date under a lock. A failure leaves the lock to end with the
connection. -/
def migrate (migrations : List Migration) (r : Record) (failure : Option String) :
    Except MigrationError Unit × List Step :=
  match r.unfinished with
  | some v => (.error (.unfinished v), [.lock])
  | none =>
    match r.applied.find? fun (v, _) => migrations.all fun m => m.version != v with
    | some (v, _) => (.error (.unknown v), [.lock])
    | none =>
      match applyAll r failure migrations with
      | (.error e, steps) => (.error e, .lock :: steps)
      | (.ok _, steps) => (.ok (), .lock :: steps ++ [.unlock])

/-! ## The schema -/

/-- The lines of the first script: all tables, the roles and their permissions. -/
def firstScriptLines : List String := [
  "-- Roles, permissions, users and refresh tokens.",
  "",
  "CREATE TABLE roles (",
  "    id          BIGSERIAL PRIMARY KEY,",
  "    name        TEXT NOT NULL UNIQUE,",
  "    created_at  TIMESTAMPTZ NOT NULL DEFAULT now()",
  ");",
  "",
  "CREATE TABLE permissions (",
  "    id          BIGSERIAL PRIMARY KEY,",
  "    name        TEXT NOT NULL UNIQUE,",
  "    created_at  TIMESTAMPTZ NOT NULL DEFAULT now()",
  ");",
  "",
  "CREATE TABLE role_permissions (",
  "    role_id        BIGINT NOT NULL REFERENCES roles (id) ON DELETE CASCADE,",
  "    permission_id  BIGINT NOT NULL REFERENCES permissions (id) ON DELETE CASCADE,",
  "    PRIMARY KEY (role_id, permission_id)",
  ");",
  "",
  "CREATE TABLE users (",
  "    id                       BIGSERIAL PRIMARY KEY,",
  "    name                     TEXT NOT NULL,",
  "    surname                  TEXT NOT NULL,",
  "    gender                   TEXT NOT NULL,",
  "    birth_date               DATE NOT NULL,",
  "    height_cm                INTEGER,",
  "    weight_kg                INTEGER,",
  "    sport_activity_level_id  BIGINT,",
  "    town_id                  BIGINT,",
  "    role_id                  BIGINT REFERENCES roles (id),",
  "    phone_number             TEXT NOT NULL,",
  "    is_phone_verified        BOOLEAN NOT NULL DEFAULT FALSE,",
  "    email                    TEXT NOT NULL,",
  "    is_email_verified        BOOLEAN NOT NULL DEFAULT FALSE,",
  "    password                 TEXT NOT NULL,",
  "    is_have_injury           BOOLEAN NOT NULL DEFAULT FALSE,",
  "    injury_description       TEXT,",
  "    photo                    TEXT,",
  "    created_at               TIMESTAMPTZ NOT NULL DEFAULT now(),",
  "    updated_at               TIMESTAMPTZ NOT NULL DEFAULT now(),",
  "    deleted_at               TIMESTAMPTZ",
  ");",
  "",
  "-- Uniqueness applies to live accounts only, so a deleted account's",
  "-- email or phone can be registered again.",
  "CREATE UNIQUE INDEX users_email_live_key ON users (email) WHERE deleted_at IS NULL;",
  "CREATE UNIQUE INDEX users_phone_live_key ON users (phone_number) WHERE deleted_at IS NULL;",
  "",
  "CREATE TABLE refresh_tokens (",
  "    id          BIGSERIAL PRIMARY KEY,",
  "    user_id     BIGINT NOT NULL REFERENCES users (id),",
  "    token_hash  TEXT NOT NULL UNIQUE,",
  "    created_at  TIMESTAMPTZ NOT NULL DEFAULT now(),",
  "    expires_at  TIMESTAMPTZ NOT NULL,",
  "    revoked_at  TIMESTAMPTZ",
  ");",
  "",
  "CREATE INDEX refresh_tokens_user_active_idx ON refresh_tokens (user_id) WHERE revoked_at IS NULL;",
  "CREATE INDEX refresh_tokens_expires_at_idx ON refresh_tokens (expires_at);",
  "",
  "INSERT INTO roles (name) VALUES ('guest'), ('user'), ('admin');",
  "",
  "INSERT INTO permissions (name) VALUES",
  "    ('profile.view.own'),",
  "    ('profile.delete.own'),",
  "    ('sessions.revoke.any');",
  "",
  "INSERT INTO role_permissions (role_id, permission_id)",
  "SELECT r.id, p.id",
  "FROM roles r",
  "JOIN permissions p ON",
  "    (r.name = 'guest' AND p.name IN ('profile.view.own'))",
  "    OR (r.name = 'user' AND p.name IN ('profile.view.own', 'profile.delete.own'))",
  "    OR (r.name = 'admin');"]

/-- The first script. -/
def firstMigration : Migration where
  version := 1
  description := "init"
  script := String.join (firstScriptLines.map (· ++ "\n"))

/-- The scripts that the program has. -/
def migrations : List Migration := [firstMigration]

end SignIn.Store.Schema
