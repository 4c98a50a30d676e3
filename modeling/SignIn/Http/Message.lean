-- Requests and responses.
import SignIn.Json.Value

namespace SignIn.Http

/-- A request: its target as it was sent, its headers in order, their names in lower case. -/
structure Request where
  method : String
  target : String
  headers : List (String × String)
  body : List UInt8

/-- The value of the first header with a name. -/
def Request.header? (r : Request) (name : String) : Option String := r.headers.lookup name

/-- Whether a header's value is readable text: printing ASCII and tabulators. -/
def isReadable (s : String) : Bool :=
  s.toList.all fun c => c == '\t' || (0x20 ≤ c.toNat && c.toNat < 0x7F)

/-- The value of the first header with a name, if it is readable. -/
def Request.readable? (r : Request) (name : String) : Option String :=
  (r.header? name).filter isReadable

/-- What a response carries. -/
inductive Body
  | empty
  | text (s : String)
  | json (j : Json)

/-- A response. -/
structure Response where
  status : Nat
  headers : List (String × String)
  body : Body

namespace Response

/-- A response with nothing but its status. -/
def bare (status : Nat) : Response := ⟨status, [], .empty⟩

/-- A response that carries text. -/
def plain (status : Nat) (s : String) : Response :=
  ⟨status, [("content-type", "text/plain; charset=utf-8")], .text s⟩

/-- A response that carries JSON. -/
def json (status : Nat) (j : Json) : Response :=
  ⟨status, [("content-type", "application/json")], .json j⟩

/-- The response with a header more. -/
def withHeader (r : Response) (name value : String) : Response :=
  { r with headers := r.headers ++ [(name, value)] }

/-- The response without what it carries. -/
def withoutBody (r : Response) : Response := { r with body := .empty }

end Response

end SignIn.Http
