-- Accounts: what a person says when registering, what is stored of it, and
-- what a look-up gives back.
import SignIn.Time.Timestamp

namespace SignIn

/-- What an account says of its owner's person. -/
structure Person where
  name : String
  surname : String
  gender : String
  heightCm : Option Int
  weightKg : Option Int
  activityLevel : Option Int
  town : Option Int
  injured : Bool
  injury : Option String
  photo : Option String
  deriving DecidableEq

/-- What a person hands in to register. -/
structure Registration where
  person : Person
  birthDate : String
  role : Option Int
  phone : String
  email : String
  password : String
  deriving DecidableEq

/-- An account that is to be stored. -/
structure NewUser where
  person : Person
  birthDate : Time.Date
  role : Option Int
  phone : String
  email : String
  passwordHash : String
  deriving DecidableEq

/-- A stored account, without its password. -/
structure User where
  id : Int
  person : Person
  birthDate : Time.Date
  role : Option Int
  phone : String
  phoneVerified : Bool
  email : String
  emailVerified : Bool
  createdAt : Time.Timestamp
  updatedAt : Time.Timestamp
  deriving DecidableEq

/-- What signing in by email needs of an account. -/
structure Credentials where
  id : Int
  email : String
  passwordHash : String
  deriving DecidableEq

/-- What the store keeps of a refresh token. -/
structure RefreshRecord where
  id : Int
  userId : Int
  createdAt : Time.Instant
  expiresAt : Time.Instant
  revokedAt : Option Time.Instant
  deriving DecidableEq

namespace RefreshRecord

/-- Whether the token has been revoked. -/
def isRevoked (r : RefreshRecord) : Bool := r.revokedAt.isSome

/-- Whether the token's time is over at `now`; at the very instant of expiry it is. -/
def isExpired (r : RefreshRecord) (now : Time.Instant) : Bool := decide (r.expiresAt ≤ now)

/-- Whether the token can be used at `now`. -/
def isActive (r : RefreshRecord) (now : Time.Instant) : Bool := !r.isRevoked && !r.isExpired now

end RefreshRecord

/-- The two tokens that a user holds after signing in. -/
structure TokenPair where
  access : String
  refresh : String
  deriving DecidableEq

/-- What came of a one-time code: whether it was right, whether the phone has an owner, and the
owner's tokens. -/
structure Confirmation where
  confirmed : Bool
  registered : Bool
  tokens : Option TokenPair
  deriving DecidableEq

end SignIn
