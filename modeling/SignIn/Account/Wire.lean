-- Accounts, pairs of tokens and registrations on the wire.
import SignIn.Account.Basic
import SignIn.Json.Record

namespace SignIn

open Json (Field Codec Values)

/-! ## Stored accounts -/

/-- The fields of an account. -/
def User.record : Json.Record :=
  [Field.required "id" Codec.int64,
    Field.required "name" Codec.text,
    Field.required "surname" Codec.text,
    Field.required "gender" Codec.text,
    Field.required "birth_date" Codec.date,
    Field.nullable "height_cm" Codec.int32,
    Field.nullable "weight_kg" Codec.int32,
    Field.nullable "sport_activity_level_id" Codec.int64,
    Field.nullable "town_id" Codec.int64,
    Field.nullable "role_id" Codec.int64,
    Field.required "phone_number" Codec.text,
    Field.required "is_phone_verified" Codec.bool,
    Field.required "email" Codec.text,
    Field.required "is_email_verified" Codec.bool,
    Field.required "is_have_injury" Codec.bool,
    Field.nullable "injury_description" Codec.text,
    Field.nullable "photo" Codec.text,
    Field.required "created_at" Codec.timestamp,
    Field.required "updated_at" Codec.timestamp]

/-- The values of an account's fields. -/
def User.toValues (u : User) : Values User.record :=
  (u.id, u.person.name, u.person.surname, u.person.gender, u.birthDate, u.person.heightCm,
    u.person.weightKg, u.person.activityLevel, u.person.town, u.role, u.phone, u.phoneVerified,
    u.email, u.emailVerified, u.person.injured, u.person.injury, u.person.photo, u.createdAt,
    u.updatedAt, ())

/-- The account with these values. -/
def User.ofValues : Values User.record → User
  | (id, name, surname, gender, birthDate, heightCm, weightKg, activityLevel, town, role, phone,
      phoneVerified, email, emailVerified, injured, injury, photo, createdAt, updatedAt, ()) =>
    { id, birthDate, role, phone, phoneVerified, email, emailVerified, createdAt, updatedAt
      person := ⟨name, surname, gender, heightCm, weightKg, activityLevel, town, injured, injury,
        photo⟩ }

/-- An account as JSON. -/
def User.json (u : User) : Json := Json.write User.record u.toValues

/-- Reads an account. -/
def User.read : Json.Reader User := do return User.ofValues (← Json.readRecord User.record)

/-! ## Pairs of tokens -/

/-- The fields of a pair of tokens. -/
def TokenPair.record : Json.Record :=
  [Field.required "access_token" Codec.text, Field.required "refresh_token" Codec.text]

/-- A pair of tokens as JSON. -/
def TokenPair.json (p : TokenPair) : Json := Json.write record (p.access, p.refresh, ())

/-- Reads a pair of tokens. -/
def TokenPair.read : Json.Reader TokenPair := do
  let (access, refresh, ()) ← Json.readRecord record
  return ⟨access, refresh⟩

/-! ## Registrations -/

/-- The fields of a registration. There is none for a role: nobody picks their own. -/
def Registration.record : Json.Record :=
  [Field.required "name" Codec.text,
    Field.required "surname" Codec.text,
    Field.required "gender" Codec.text,
    Field.required "birth_date" Codec.text,
    Field.optional "height_cm" Codec.int32,
    Field.optional "weight_kg" Codec.int32,
    Field.optional "sport_activity_level_id" Codec.int64,
    Field.optional "town_id" Codec.int64,
    Field.required "phone_number" Codec.text,
    Field.required "email" Codec.text,
    Field.required "password" Codec.text,
    Field.defaulted "is_have_injury" Codec.bool false,
    Field.optional "injury_description" Codec.text,
    Field.optional "photo" Codec.text]

/-- The registration with these values. -/
def Registration.ofValues : Values Registration.record → Registration
  | (name, surname, gender, birthDate, heightCm, weightKg, activityLevel, town, phone, email,
      password, injured, injury, photo, ()) =>
    { birthDate, phone, email, password
      role := none
      person := ⟨name, surname, gender, heightCm, weightKg, activityLevel, town, injured, injury,
        photo⟩ }

/-- Reads a registration. -/
def Registration.read : Json.Reader Registration := do
  return Registration.ofValues (← Json.readRecord Registration.record)

end SignIn
