-- The settings of the server, read from named variables. A blank variable
-- counts as one that is not set.
import SignIn.Error
import SignIn.Settings
import SignIn.Text.Blank

namespace SignIn

/-- The settings of the server. -/
structure ServerSettings where
  bindAddress : String
  databaseUrl : String
  redisUrl : String
  session : Settings
  deriving DecidableEq

/-- Why the variables give no settings. -/
inductive SettingsFault
  | invalidSeconds (name value : String)
  | missingPlaceholder (name : String)
  | sharedSecret
  deriving DecidableEq, Repr

def SettingsFault.message : SettingsFault → String
  | .invalidSeconds name value =>
    name ++ ": expected a whole number of seconds, got " ++ Text.quoted value
  | .missingPlaceholder name => name ++ " must contain a `\x7b\x7d` placeholder"
  | .sharedSecret => "access and refresh token secrets must differ"

namespace ServerSettings

/-- The value of a variable that is set to more than white space. -/
def given (lookup : String → Option String) (name : String) : Option String :=
  (lookup name).filter fun value => !Text.isBlankText value

/-- A duration in whole seconds, or the default where the variable is not set. -/
def seconds (lookup : String → Option String) (name : String) (default : Time.Duration) :
    Except SettingsFault Time.Duration :=
  match given lookup name with
  | none => .ok default
  | some value =>
    match Text.Decimal.parseNat? Text.Decimal.nat64High (Text.trim value) with
    | some n => .ok (.ofSeconds n)
    | none => .error (.invalidSeconds name value)

/-- A template with a placeholder, or the default where the variable is not set. -/
def template (lookup : String → Option String) (name default : String) :
    Except SettingsFault String :=
  match given lookup name with
  | none => .ok default
  | some value =>
    if Text.Template.hasPlaceholder value then .ok value else .error (.missingPlaceholder name)

/-- The settings that the variables give. `freshAccess` and `freshRefresh` are the secrets to use
where none is given. -/
def ofLookup (freshAccess freshRefresh : String) (lookup : String → Option String) :
    Except SettingsFault ServerSettings := do
  let accessSecret := (given lookup "ACCESS_TOKEN_SECRET").getD freshAccess
  let refreshSecret := (given lookup "REFRESH_TOKEN_SECRET").getD freshRefresh
  failIf (accessSecret = refreshSecret) .sharedSecret
  let base := Settings.withSecrets accessSecret refreshSecret
  let accessLifetime ← seconds lookup "ACCESS_TOKEN_TTL_SECS" base.accessLifetime
  let refreshLifetime ← seconds lookup "REFRESH_TOKEN_TTL_SECS" base.refreshLifetime
  let retention ← seconds lookup "REFRESH_TOKEN_RETENTION_SECS" base.retention
  let accessKeyTemplate ← template lookup "ACCESS_TOKEN_KEY_TEMPLATE" base.accessKeyTemplate
  let codeKeyTemplate ← template lookup "OTP_KEY_TEMPLATE" base.codeKeyTemplate
  return {
    bindAddress := (given lookup "BIND_ADDR").getD "127.0.0.1:3100"
    databaseUrl := (given lookup "DATABASE_URL").getD "postgres://localhost:5432/sporta"
    redisUrl := (given lookup "REDIS_URL").getD "redis://127.0.0.1:6379"
    session := { base with
      accessLifetime, refreshLifetime, retention, accessKeyTemplate, codeKeyTemplate
      birthDatePattern := (given lookup "BIRTH_DATE_FORMAT").getD base.birthDatePattern
      fixedCode := given lookup "OTP_FIXED_CODE" }
  }

/-- The settings as text, with nothing secret of the session service in it. -/
def text (s : ServerSettings) : String :=
  "ApiConfig \x7b bind_addr: " ++ Text.quoted s.bindAddress ++ ", database_url: " ++
    Text.quoted s.databaseUrl ++ ", redis_url: " ++ Text.quoted s.redisUrl ++ ", auth: " ++
    s.session.text ++ " \x7d"

end ServerSettings

end SignIn
