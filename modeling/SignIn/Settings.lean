-- The settings of the session service: secrets, lifetimes, cache keys, the
-- pattern of birth dates and a fixed one-time code.
import SignIn.Text.Template
import SignIn.Text.Quoted
import SignIn.Time.Instant

namespace SignIn

/-- The settings of the session service. -/
structure Settings where
  accessSecret : String
  accessLifetime : Time.Duration
  refreshSecret : String
  refreshLifetime : Time.Duration
  accessKeyTemplate : String
  codeKeyTemplate : String
  birthDatePattern : String
  fixedCode : Option String
  /-- How long a refresh token is kept after its end. -/
  retention : Time.Duration
  deriving DecidableEq

namespace Settings

/-- How long a one-time code is valid: five minutes. -/
def codeLifetime : Time.Duration := .ofSeconds 300

/-- The settings with all else left as it is by default: access tokens live ten minutes, refresh
tokens thirty days, and are kept for as long again. -/
def withSecrets (accessSecret refreshSecret : String) : Settings where
  accessSecret := accessSecret
  accessLifetime := .ofSeconds 600
  refreshSecret := refreshSecret
  refreshLifetime := .ofSeconds 2592000
  accessKeyTemplate := "access_token:\x7b\x7d"
  codeKeyTemplate := "otp:\x7b\x7d"
  birthDatePattern := "%d-%m-%Y"
  fixedCode := none
  retention := .ofSeconds 2592000

/-- The cache key of a user's liveness marker. -/
def accessKey (s : Settings) (userId : Int) : String :=
  Text.Template.fill s.accessKeyTemplate (Text.Decimal.ofInt userId)

/-- The cache key of an identifier's one-time code. -/
def codeKey (s : Settings) (identifier : String) : String :=
  Text.Template.fill s.codeKeyTemplate identifier

/-- The settings as text, with nothing secret in it. -/
def text (s : Settings) : String :=
  "AuthConfig \x7b access_token_secret: \"<redacted>\", access_token_ttl: " ++
    s.accessLifetime.text ++ ", refresh_token_secret: \"<redacted>\", refresh_token_ttl: " ++
    s.refreshLifetime.text ++ ", access_token_key_template: " ++ Text.quoted s.accessKeyTemplate ++
    ", otp_key_template: " ++ Text.quoted s.codeKeyTemplate ++ ", birth_date_format: " ++
    Text.quoted s.birthDatePattern ++ ", otp_fixed_code: " ++
    (if s.fixedCode.isSome then "Some(\"<set>\")" else "None") ++ ", refresh_token_retention: " ++
    s.retention.text ++ " \x7d"

end Settings

end SignIn
