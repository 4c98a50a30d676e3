-- Media types, as far as it takes to say whether a body is JSON.
import SignIn.Text.Utf8

namespace SignIn.Http.MediaType

/-- The characters that names are made of. -/
def isToken (c : Char) : Bool :=
  ('a' ≤ c && c ≤ 'z') || ('A' ≤ c && c ≤ 'Z') || ('0' ≤ c && c ≤ '9') ||
    ['!', '#', '$', '%', '&', '\x27', '*', '+', '-', '.', '^', '_', '\x60', '|', '~'].contains c

/-- The characters that may stand in a quoted value. -/
def isQuotable (c : Char) : Bool := 0x1F < c.toNat && c.toNat ≠ 0x7F

/-- What is expected next in a list of parameters. -/
inductive Awaits
  /-- A name, of which nothing has been read. -/
  | name
  /-- The rest of a name. -/
  | nameRest
  /-- A value, of which nothing has been read. -/
  | value
  | valueRest
  | quoted
  | quotedRest
  /-- The end of a parameter behind a quoted value. -/
  | done
  deriving DecidableEq

/-- Whether the characters are a list of parameters. -/
def areParameters : Awaits → List Char → Bool
  | .name, [] => true
  | .name, c :: r =>
    if c = ' ' then areParameters .name r else isToken c && areParameters .nameRest r
  | .nameRest, [] => false
  | .nameRest, c :: r =>
    if c = '=' then areParameters .value r else isToken c && areParameters .nameRest r
  | .value, [] => true
  | .value, c :: r =>
    if c = '"' then areParameters .quoted r else isToken c && areParameters .valueRest r
  | .valueRest, [] => true
  | .valueRest, c :: r =>
    if c = ';' then areParameters .name r else isToken c && areParameters .valueRest r
  | .quoted, [] => false
  | .quoted, c :: r => isQuotable c && areParameters .quotedRest r
  | .quotedRest, [] => false
  | .quotedRest, c :: r =>
    if c = '"' then areParameters .done r else isQuotable c && areParameters .quotedRest r
  | .done, [] => true
  | .done, c :: r =>
    if c = ';' then areParameters .name r else c == ' ' && areParameters .done r

/-- Splits a subtype at its last plus sign, which may not be its first character: the subtype
proper and the suffix. -/
def splitSuffix (subtype : List Char) : List Char × Option (List Char) :=
  match subtype.reverse.span (· ≠ '+') with
  | (_, []) => (subtype, none)
  | (_, [_]) => (subtype, none)
  | (suffix, _ :: proper) => (proper.reverse, some suffix.reverse)

/-- Whether the media type is JSON, or something else written in JSON. -/
def isJson (s : String) : Bool :=
  let cs := s.toList.map Char.toLower
  let (type, rest) := cs.span isToken
  match rest with
  | '/' :: rest =>
    let (subtype, rest) := rest.span isToken
    let parameters := match rest with
      | [] => true
      | c :: r => c == ';' && areParameters .name r
    let (proper, suffix) := splitSuffix subtype
    type == "application".toList && parameters &&
      (proper == "json".toList || suffix == some "json".toList)
  | _ => false

end SignIn.Http.MediaType
