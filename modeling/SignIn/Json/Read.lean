-- Readers of single values: numbers, texts, truth values, lists, values that
-- may be null, and any value at all.
import SignIn.Json.Scan

namespace SignIn.Json

/-! ## A value of another form -/

/-- Reads a word, number or string to its end, so as to say that it is not wanted. A bracket is not
looked into. -/
def refuse (b : UInt8) : Reader Empty := fun bytes =>
  let afterScalar : Outcome Unit :=
    if b = 0x22 then (do let _ ← readStringBody; pure () : Reader Unit) bytes.tail
    else if b = 0x6E then expect ull bytes.tail
    else if b = 0x74 then expect rue bytes.tail
    else if b = 0x66 then expect alse bytes.tail
    else if b = 0x2D then (do let _ ← readNumber false; pure () : Reader Unit) bytes.tail
    else if isDigit b then (do let _ ← readNumber true; pure () : Reader Unit) bytes
    else if b = 0x5B ∨ b = 0x7B then .value () bytes
    else .fault .malformed bytes
  match afterScalar with
  | .value _ rest => .fault .mismatch rest
  | .fault f rest => .fault f rest

/-- Reads a value by its first byte, which stays in the text; a byte for which there is no reader
refuses the value. -/
def readBy {α : Type} (reader : UInt8 → Option (Reader α)) : Reader α := do
  match ← peek with
  | none => Reader.fail .truncated
  | some b =>
    match reader b with
    | some r => r
    | none => do
      let impossible ← refuse b
      nomatch impossible

/-! ## Single values -/

/-- Reads a text. -/
def readText : Reader String :=
  readBy fun b => if b = 0x22 then some (do skipByte; readStringBody) else none

/-- Reads a truth value. -/
def readBool : Reader Bool :=
  readBy fun b =>
    if b = 0x74 then some (do skipByte; expect rue; pure true)
    else if b = 0x66 then some (do skipByte; expect alse; pure false)
    else none

/-- A whole number within the bounds. -/
def wholeWithin (low high : Int) : Number → Reader Int
  | .whole n => if low ≤ n ∧ n ≤ high then pure n else Reader.fail .mismatch
  | .decimal => Reader.fail .mismatch

/-- Reads a whole number within the bounds. -/
def readInt (low high : Int) : Reader Int :=
  readBy fun b =>
    if b = 0x2D then some (do skipByte; wholeWithin low high (← readNumber false))
    else if isDigit b then some (do wholeWithin low high (← readNumber true))
    else none

/-- Reads a value that may be null. -/
def readNullable {α : Type} (read : Reader α) : Reader (Option α) := do
  match ← peek with
  | some 0x6E => do skipByte; expect ull; pure none
  | _ => do pure (some (← read))

/-! ## Lists -/

/-- Whether another item follows in an array; the text then stands at the item, else at the
bracket. -/
def nextItem (first : Bool) : Reader Bool := do
  match ← peek with
  | none => Reader.fail .truncated
  | some b =>
    if b = 0x5D then pure false
    else if first then pure true
    else if b = 0x2C then do
      skipByte
      match ← peek with
      | none => Reader.fail .truncated
      | some c => if c = 0x5D then Reader.fail .malformed else pure true
    else Reader.fail .malformed

/-- Ends an array of which no more items are wanted. -/
def endItems : Reader Unit := do
  match ← peek with
  | none => Reader.fail .truncated
  | some b => if b = 0x5D then skipByte else Reader.fail .malformed

/-- Reads the items of an array up to its bracket, at most one for each byte of `budget`. -/
def readItemsFrom {α : Type} (read : Reader α) (first : Bool) (done : List α) :
    (budget : Bytes) → Reader (List α)
  | [] => Reader.fail .truncated
  | _ :: budget => do
    if ← nextItem first then
      let a ← read
      readItemsFrom read false (a :: done) budget
    else
      endItems
      pure done.reverse

/-- Reads the items of an array behind its opening bracket. -/
def readItems {α : Type} (read : Reader α) : Reader (List α) := fun bytes =>
  readItemsFrom read true [] (0 :: bytes) bytes

/-- Reads an array of such values. -/
def readList {α : Type} (read : Reader α) : Reader (List α) :=
  readBy fun b => if b = 0x5B then some (do skipByte; readItems read) else none

/-! ## Members -/

/-- Whether another member follows in an object; the text then stands at its name, else at the
bracket. -/
def nextMember (first : Bool) : Reader Bool := do
  match ← peek with
  | none => Reader.fail .truncated
  | some b =>
    if b = 0x7D then pure false
    else if first then if b = 0x22 then pure true else Reader.fail .malformed
    else if b = 0x2C then do
      skipByte
      match ← peek with
      | none => Reader.fail .truncated
      | some c => if c = 0x22 then pure true else Reader.fail .malformed
    else Reader.fail .malformed

/-- Reads the colon between a name and its value. -/
def readColon : Reader Unit := do
  match ← peek with
  | none => Reader.fail .truncated
  | some b => if b = 0x3A then skipByte else Reader.fail .malformed

/-- Ends an object of which no more members are wanted. -/
def endMembers : Reader Unit := do
  match ← peek with
  | none => Reader.fail .truncated
  | some b => if b = 0x7D then skipByte else Reader.fail .malformed

/-- Reads the members of an object, up to its bracket but without it. `member` gives the reader of
the member with a name, which stands behind the name and goes on from what has been read so far.
There are at most as many members as `budget` has bytes. -/
def readMembersFrom {σ : Type} (member : String → σ → Reader σ) (first : Bool) (s : σ) :
    (budget : Bytes) → Reader σ
  | [] => Reader.fail .truncated
  | _ :: budget => do
    if ← nextMember first then
      skipByte
      let name ← readStringBody
      let s ← member name s
      readMembersFrom member false s budget
    else pure s

/-- Reads the members of an object behind its opening bracket. -/
def readMembers {σ : Type} (member : String → σ → Reader σ) (s : σ) : Reader σ := fun bytes =>
  readMembersFrom member true s (0 :: bytes) bytes

/-! ## Any value -/

/-- Reads any number, which stands at the front. -/
def readAnyNumber : Reader Json := fun bytes =>
  let number := match bytes with
    | 0x2D :: rest => readNumber false rest
    | bytes => readNumber true bytes
  match number with
  | .fault f rest => .fault f rest
  | .value (.whole n) rest => .value (.number n) rest
  | .value .decimal rest =>
    .value (.decimal ((Text.ofUtf8? (bytes.take (bytes.length - rest.length))).getD "")) rest

/-- What a fault inside an array leaves, behind the array's end or a comma if that comes next. -/
def leaveItems (bytes : Bytes) : Bytes :=
  match skipSpace bytes with
  | [] => []
  | b :: rest => if b = 0x5D then rest else if b = 0x2C then skipSpace rest else b :: rest

/-- What a fault inside an object leaves, behind the object's end if that comes next. -/
def leaveMembers (bytes : Bytes) : Bytes :=
  match skipSpace bytes with
  | [] => []
  | b :: rest => if b = 0x7D then rest else b :: rest

/-- Reads the items of an array behind its opening bracket, each by `inner`. -/
def readAnyItems (inner : Reader Json) : Reader Json :=
  Reader.afterFault leaveItems do
    return .array (← readItems inner)

/-- Reads the members of an object behind its opening bracket, each value by `inner`. -/
def readAnyMembers (inner : Reader Json) : Reader Json :=
  Reader.afterFault leaveMembers do
    let members ← readMembers (fun name done => do readColon; pure ((name, ← inner) :: done)) []
    endMembers
    return .object members.reverse

/-- Reads any value, whose items and members are read by `inner`. Without that brackets are
refused. -/
def readAnyWith (inner : Option (Reader Json)) : Reader Json :=
  readBy fun b =>
    if b = 0x22 then some (do skipByte; pure (.string (← readStringBody)))
    else if b = 0x6E then some (do skipByte; expect ull; pure .null)
    else if b = 0x74 then some (do skipByte; expect rue; pure (.bool true))
    else if b = 0x66 then some (do skipByte; expect alse; pure (.bool false))
    else if b = 0x2D || isDigit b then some readAnyNumber
    else if b = 0x5B then some (
      match inner with
      | none => Reader.fail .malformed
      | some inner => do skipByte; readAnyItems inner)
    else if b = 0x7B then some (
      match inner with
      | none => Reader.fail .malformed
      | some inner => do skipByte; readAnyMembers inner)
    else none

/-- Reads any value whose brackets are less than `depth` deep. -/
def readAny : (depth : Nat) → Reader Json
  | 0 => readAnyWith none
  | 1 => readAnyWith none
  | depth + 2 => readAnyWith (some (readAny (depth + 1)))

end SignIn.Json
