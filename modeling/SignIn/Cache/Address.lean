-- The address of a cache server: which texts name one.
import SignIn.Text.Decimal

namespace SignIn.Cache

/-- Where a cache server is, and which of its databases is meant. -/
structure Address where
  host : String
  /-- The number of the service on its host. -/
  service : Nat
  database : Int
  deriving DecidableEq, Repr

namespace Address

/-- The service of an address that names none. -/
def defaultService : Nat := 6379

/-- What follows the scheme, if the text has that of a cache server. -/
def afterScheme? (text : String) : Option (List Char) :=
  let scheme := "redis://".toList
  if scheme.isPrefixOf text.toList then some (text.toList.drop scheme.length) else none

/-- The place and the path behind it: the path begins with the first slash. -/
def splitPath (rest : List Char) : List Char × List Char :=
  (rest.takeWhile (· != '/'), rest.dropWhile (· != '/'))

/-- The place without the name and the password that may stand before it. -/
def withoutUser (place : List Char) : List Char :=
  (place.reverse.takeWhile (· != '@')).reverse

/-- The host and the service of a place. -/
def hostService? (place : List Char) : Option (String × Nat) :=
  let host := place.takeWhile (· != ':')
  if host.isEmpty then none
  else match place.dropWhile (· != ':') with
    | [] | [':'] => some (String.ofList host, defaultService)
    | _ :: digits =>
      ((Text.Decimal.ofDigits? digits).filter (· < 0x10000)).map fun service =>
        (String.ofList host, service)

/-- The database of a path: the first one where the path names none. -/
def database? (path : List Char) : Option Int :=
  let name := ((path.dropWhile (· == '/')).reverse.dropWhile (· == '/')).reverse
  if name.isEmpty then some 0
  else Text.Decimal.parseInt? Text.Decimal.int64Low Text.Decimal.int64High (String.ofList name)

/-- The address that a text names. -/
def ofText? (text : String) : Option Address := do
  let (place, path) := splitPath (← afterScheme? text)
  let (host, service) ← hostService? (withoutUser place)
  return ⟨host, service, ← database? path⟩

end Address

end SignIn.Cache
