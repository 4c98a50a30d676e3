-- The bodies of requests and responses.
import SignIn.Account.Wire
import SignIn.Http.MediaType
import SignIn.Http.Message

namespace SignIn.Http

open Json (Field Codec Values Reader)

/-! ## Requests -/

/-- An email and a password. -/
structure LoginBody where
  email : String
  password : String
  deriving DecidableEq

def LoginBody.read : Reader LoginBody := do
  let (email, password, ()) ← Json.readRecord
    [Field.required "email" Codec.text, Field.required "password" Codec.text]
  return ⟨email, password⟩

/-- A refresh token. -/
structure RefreshBody where
  refreshToken : String
  deriving DecidableEq

def RefreshBody.read : Reader RefreshBody := do
  let (refreshToken, ()) ← Json.readRecord [Field.required "refresh_token" Codec.text]
  return ⟨refreshToken⟩

/-- A user and a refresh token, which is empty where it is missing. -/
structure LogoutBody where
  userId : Int
  refreshToken : String
  deriving DecidableEq

def LogoutBody.read : Reader LogoutBody := do
  let (userId, refreshToken, ()) ← Json.readRecord
    [Field.required "user_id" Codec.int64, Field.defaulted "refresh_token" Codec.text ""]
  return ⟨userId, refreshToken⟩

/-- Whom to send a one-time code. -/
structure SendCodeBody where
  identifier : String
  deriving DecidableEq

def SendCodeBody.read : Reader SendCodeBody := do
  let (identifier, ()) ← Json.readRecord [Field.required "identifier" Codec.text]
  return ⟨identifier⟩

/-- A one-time code. -/
structure ConfirmCodeBody where
  identifier : String
  code : String
  deriving DecidableEq

def ConfirmCodeBody.read : Reader ConfirmCodeBody := do
  let (identifier, code, ()) ← Json.readRecord
    [Field.required "identifier" Codec.text, Field.required "code" Codec.text]
  return ⟨identifier, code⟩

/-! ## Responses -/

/-- What the body says of a pair of tokens. -/
structure TokenBody where
  access : String
  refresh : String
  deriving DecidableEq

namespace TokenBody

/-- The fields of the body. -/
def record : Json.Record :=
  [Field.required "access_token" Codec.text, Field.required "refresh_token" Codec.text]

/-- The body for a pair of tokens. -/
def ofPair (p : TokenPair) : TokenBody := ⟨p.access, p.refresh⟩

/-- The body as JSON. -/
def json (b : TokenBody) : Json := Json.write record (b.access, b.refresh, ())

def read : Reader TokenBody := do
  let (access, refresh, ()) ← Json.readRecord record
  return ⟨access, refresh⟩

end TokenBody

def pairJson (p : TokenPair) : Json := (TokenBody.ofPair p).json

/-- The answer to a logout. -/
def logoutJson : Json := .object [("message", .string "Logged out")]

/-- The answer to the sending of a code. -/
def sentJson : Json := .object [("otp_sent", .bool true), ("message", .string "OTP sent")]

/-- What the body says after a code was confirmed. -/
structure ConfirmationBody where
  confirmed : Bool
  registered : Bool
  text : String
  access : Option String
  refresh : Option String
  deriving DecidableEq

namespace ConfirmationBody

/-- The fields of the body. -/
def record : Json.Record :=
  [Field.required "otp_confirmed" Codec.bool,
    Field.required "is_registered" Codec.bool,
    Field.required "message" Codec.text,
    Field.sparse "access_token" Codec.text,
    Field.sparse "refresh_token" Codec.text]

def toValues (b : ConfirmationBody) : Values record :=
  (b.confirmed, b.registered, b.text, b.access, b.refresh, ())

def ofValues : Values record → ConfirmationBody
  | (confirmed, registered, text, access, refresh, ()) =>
    ⟨confirmed, registered, text, access, refresh⟩

/-- The body for a confirmation. -/
def ofConfirmation (c : Confirmation) : ConfirmationBody where
  confirmed := c.confirmed
  registered := c.registered
  text :=
    if c.registered then "OTP confirmed, user signed in" else "OTP confirmed, user not registered"
  access := c.tokens.map TokenPair.access
  refresh := c.tokens.map TokenPair.refresh

/-- The body as JSON. -/
def json (b : ConfirmationBody) : Json := Json.write record b.toValues

def read : Reader ConfirmationBody := do return ofValues (← Json.readRecord record)

end ConfirmationBody

/-- What the body says of the caller's own account. -/
structure ProfileBody where
  id : Int
  name : String
  surname : String
  gender : String
  birthDate : Time.Date
  heightCm : Option Int
  weightKg : Option Int
  activityLevel : Option Int
  town : Option Int
  role : Option Int
  phone : String
  phoneVerified : Bool
  email : String
  emailVerified : Bool
  injured : Bool
  injury : Option String
  photo : Option String
  createdAt : Time.Timestamp
  updatedAt : Time.Timestamp
  deriving DecidableEq

namespace ProfileBody

/-- The fields of the body. -/
def record : Json.Record :=
  [Field.required "id" Codec.int64,
    Field.required "name" Codec.text,
    Field.required "surname" Codec.text,
    Field.required "gender" Codec.text,
    Field.required "birth_date" Codec.date,
    Field.nullable "height_cm" Codec.int32,
    Field.nullable "weight_kg" Codec.int32,
    Field.nullable "sport_activity_level_id" Codec.int64,
    Field.nullable "town_id" Codec.int64,
    Field.nullable "role_id" Codec.int64,
    Field.required "phone_number" Codec.text,
    Field.required "is_phone_verified" Codec.bool,
    Field.required "email" Codec.text,
    Field.required "is_email_verified" Codec.bool,
    Field.required "is_have_injury" Codec.bool,
    Field.nullable "injury_description" Codec.text,
    Field.nullable "photo" Codec.text,
    Field.required "created_at" Codec.timestamp,
    Field.required "updated_at" Codec.timestamp]

def toValues (b : ProfileBody) : Values record :=
  (b.id, b.name, b.surname, b.gender, b.birthDate, b.heightCm, b.weightKg, b.activityLevel, b.town,
    b.role, b.phone, b.phoneVerified, b.email, b.emailVerified, b.injured, b.injury, b.photo,
    b.createdAt, b.updatedAt, ())

def ofValues : Values record → ProfileBody
  | (id, name, surname, gender, birthDate, heightCm, weightKg, activityLevel, town, role, phone,
      phoneVerified, email, emailVerified, injured, injury, photo, createdAt, updatedAt, ()) =>
    ⟨id, name, surname, gender, birthDate, heightCm, weightKg, activityLevel, town, role, phone,
      phoneVerified, email, emailVerified, injured, injury, photo, createdAt, updatedAt⟩

/-- The body for an account. -/
def ofUser (u : User) : ProfileBody where
  id := u.id
  name := u.person.name
  surname := u.person.surname
  gender := u.person.gender
  birthDate := u.birthDate
  heightCm := u.person.heightCm
  weightKg := u.person.weightKg
  activityLevel := u.person.activityLevel
  town := u.person.town
  role := u.role
  phone := u.phone
  phoneVerified := u.phoneVerified
  email := u.email
  emailVerified := u.emailVerified
  injured := u.person.injured
  injury := u.person.injury
  photo := u.person.photo
  createdAt := u.createdAt
  updatedAt := u.updatedAt

/-- The body as JSON. -/
def json (b : ProfileBody) : Json := Json.write record b.toValues

def read : Reader ProfileBody := do return ofValues (← Json.readRecord record)

end ProfileBody

/-- The fields of the answer to a revocation: the user and how many tokens were revoked. -/
def revokedRecord : Json.Record :=
  [Field.required "user_id" Codec.int64, Field.required "revoked" Codec.nat64]

def revokedJson (userId : Int) (revoked : Nat) : Json :=
  Json.write revokedRecord (userId, revoked, ())

/-- Reads the answer to a revocation. -/
def readRevoked : Reader (Int × Nat) := do
  let (userId, revoked, ()) ← Json.readRecord revokedRecord
  return (userId, revoked)

/-! ## Reading bodies -/

/-- The most bytes that a body may have. -/
def bodyLimit : Nat := 2097152

/-- Reads the body of a request. It must say that it is JSON, be within the limit, be JSON, and have
the wanted form, in this order. -/
def readBody {α : Type} (read : Reader α) (r : Request) : Except Response α :=
  if !((r.readable? "content-type").any MediaType.isJson) then
    .error (.plain 415 "Expected request with `Content-Type: application/json`")
  else if bodyLimit < r.body.length then
    .error (.plain 413 "Failed to buffer the request body")
  else match Json.readWhole read r.body with
    | .ok a => .ok a
    | .error .mismatch =>
      .error (.plain 422 "Failed to deserialize the JSON body into the target type")
    | .error _ => .error (.plain 400 "Failed to parse the request body as JSON")

end SignIn.Http
