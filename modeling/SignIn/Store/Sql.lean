-- Conversations with a database. Statements with their parameters go out one
-- at a time, and each is answered with rows and a count, with a failure, or
-- not at all. A transaction that is not brought to its end is rolled back.
-- An exchange ends with a value or a failure, or it breaks off: that happens
-- only over a row which holds an instant that no clock can show.
import SignIn.Dialog
import SignIn.Error
import SignIn.Time.Timestamp

namespace SignIn.Sql

/-! ## Statements and replies -/

/-- A value in a statement or in a row. -/
inductive Value
  | null
  | int (n : Int)
  | text (s : String)
  | bool (b : Bool)
  | date (d : Time.Date)
  | instant (t : Time.Instant)
  /-- A floating-point number that is whole and not negative. -/
  | float (n : Nat)
  deriving DecidableEq

/-- A statement: its text, where `$1`, `$2` and so on stand for the parameters. -/
structure Statement where
  text : String
  params : List Value
  deriving DecidableEq

/-- The text of a statement from its lines. -/
def lines (parts : List String) : String := String.intercalate " " parts

/-- What a statement is answered with. -/
inductive Reply
  | result (rows : List (List Value)) (affected : Nat)
  | failure (code message : String)
  /-- No answer comes, until the caller gives up waiting. -/
  | silence
  deriving DecidableEq

/-- The beginning of 2000, from which a database counts time. -/
def baseNanos : Int := 946684800 * Time.second

/-- The instant as a database holds it: cut to whole microseconds, towards the beginning of 2000. -/
def wholeMicros (t : Time.Instant) : Time.Instant :=
  .clamp (baseNanos + (t.nanos - baseNanos).tdiv 1000 * 1000)

/-- An instant as a parameter. -/
def Value.ofInstant (t : Time.Instant) : Value := .instant (wholeMicros t)

/-- A value that may be missing, as a parameter. -/
def Value.optional {α : Type} (f : α → Value) : Option α → Value
  | some a => f a
  | none => .null

/-! ## Rows -/

/-- Why a row is not read. -/
inductive RowFault
  /-- A column is missing, or holds no value of its kind. -/
  | undecodable
  /-- An instant lies outside time. -/
  | outsideTime
  deriving DecidableEq, Repr

/-- Reads columns of a row from the left; the first fault counts. -/
abbrev Columns := StateT (List Value) (Except RowFault)

/-- Reads the next column. -/
def column {α : Type} (read : Value → Except RowFault α) : Columns α
  | [] => .error .undecodable
  | v :: row => (read v).map fun a => (a, row)

/-- Reads the next column, which may be empty. -/
def optionalColumn {α : Type} (read : Value → Except RowFault α) : Columns (Option α) :=
  column fun
    | .null => .ok none
    | v => (read v).map some

namespace Value

def toInt : Value → Except RowFault Int
  | .int n => .ok n
  | _ => .error .undecodable

def toText : Value → Except RowFault String
  | .text s => .ok s
  | _ => .error .undecodable

def toBool : Value → Except RowFault Bool
  | .bool b => .ok b
  | _ => .error .undecodable

/-- A date stands in a row as it is written. -/
def toDate : Value → Except RowFault Time.Date
  | .date d => .ok d
  | .text s => orFail .undecodable (Time.Date.ofText? s)
  | _ => .error .undecodable

/-- An instant stands in a row as its microseconds since the beginning of 1970. -/
def toInstant : Value → Except RowFault Time.Instant
  | .instant t => .ok t
  | .int n => orFail .outsideTime (Time.Instant.ofNanos? (n * 1000))
  | _ => .error .undecodable

end Value

/-! ## Conversations -/

/-- A conversation with a database that answers each statement. -/
abbrev Conversation : Type → Type := Dialog Statement fun _ => Reply

/-- Why an exchange comes to no answer. -/
inductive NoAnswer
  | failure (e : StoreError)
  /-- It broke off over an instant outside time, which is no failure that a caller could handle. -/
  | brokenOff
  deriving DecidableEq, Repr

/-- A conversation that may come to no answer. -/
abbrev Exchange (α : Type) := ExceptT NoAnswer Conversation α

/-- What a statement that succeeded came to. -/
structure Outcome where
  rows : List (List Value)
  affected : Nat

/-- What the failure of a statement means. -/
def failed (_code message : String) : StoreError :=
  .database ("error returned from database: " ++ message)

/-- The same for a statement that may break a rule of uniqueness, which is a conflict. -/
def failedOrConflict (code message : String) : StoreError :=
  if code = "23505" then .conflict message else failed code message

/-- Sends a statement; `onFailure` says what its failure means. -/
def send (onFailure : String → String → StoreError) (s : Statement) : Exchange Outcome :=
  ExceptT.mk (do
    match ← (Dialog.lift s : Conversation Reply) with
    | .result rows affected => pure (.ok ⟨rows, affected⟩)
    | .failure code message => pure (.error (.failure (onFailure code message)))
    | .silence => pure (.error (.failure .cancelled)))

/-- What a fault in a row comes to. -/
def RowFault.noAnswer : RowFault → NoAnswer
  | .undecodable => .failure (.database "error occurred while decoding column")
  | .outsideTime => .brokenOff

/-- Reads a row. -/
def readRow {α : Type} (columns : Columns α) (row : List Value) : Except NoAnswer α :=
  match columns row with
  | .ok (a, _) => .ok a
  | .error fault => .error fault.noAnswer

/-- Reads the first row, if there is one. -/
def readFirst? {α : Type} (columns : Columns α) (o : Outcome) : Except NoAnswer (Option α) :=
  match o.rows with
  | [] => .ok none
  | row :: _ => (readRow columns row).map some

/-- What the lack of a row that must be there is. -/
def noRow : StoreError :=
  .database "no rows returned by a query that expected to return at least one row"

/-- Reads the first row. -/
def readFirst {α : Type} (columns : Columns α) (o : Outcome) : Except NoAnswer α :=
  match o.rows with
  | [] => .error (.failure noRow)
  | row :: _ => readRow columns row

/-- Reads all rows. -/
def readAll {α : Type} (columns : Columns α) (o : Outcome) : Except NoAnswer (List α) :=
  o.rows.mapM (readRow columns)

/-! ## Transactions -/

def beginning : Statement := ⟨"BEGIN", []⟩
def commit : Statement := ⟨"COMMIT", []⟩
def rollback : Statement := ⟨"ROLLBACK", []⟩

/-- Leads an exchange inside a transaction, which the exchange ends. Where it comes to no answer,
what is still open is rolled back, whatever comes of that. -/
def transaction {α : Type} (body : Exchange α) : Exchange α := do
  let _ ← send failed beginning
  ExceptT.mk (do
    match ← body.run with
    | .ok a => pure (.ok a)
    | .error e =>
      let _ ← (Dialog.lift rollback : Conversation Reply)
      pure (.error e))

/-! ## Connections -/

/-- A connection: the replies that are to come, and the statements that were sent, oldest first. -/
structure Connection where
  replies : List Reply
  sent : List Statement

/-- Answers a statement. When the replies have run out it succeeds, without rows. -/
def Connection.answer (c : Connection) (s : Statement) : Reply × Connection :=
  (c.replies.headD (.result [] 0), ⟨c.replies.tail, c.sent ++ [s]⟩)

/-- Leads a conversation over a connection. -/
def Connection.run {α : Type} (c : Connection) (t : Conversation α) : α × Connection :=
  Dialog.run Connection.answer c t

end SignIn.Sql
