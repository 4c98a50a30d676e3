-- Records on the wire: named fields in an order, each with its way of being
-- written and read. A record is read from an object, or from an array of its
-- fields in order; members with other names are passed over.
import SignIn.Json.Read
import SignIn.Time.Timestamp

namespace SignIn.Json

/-! ## Single values -/

/-- How values of a type are written and read. -/
structure Codec (α : Type) where
  write : α → Json
  read : Reader α

namespace Codec

/-- A text. -/
def text : Codec String := ⟨.string, readText⟩

/-- A truth value. -/
def bool : Codec Bool := ⟨.bool, readBool⟩

/-- A whole number within bounds. -/
def int (low high : Int) : Codec Int := ⟨.number, readInt low high⟩

/-- A whole number of 64 bits with a sign. -/
def int64 : Codec Int := int Text.Decimal.int64Low Text.Decimal.int64High

/-- A whole number of 32 bits with a sign. -/
def int32 : Codec Int := int Text.Decimal.int32Low Text.Decimal.int32High

/-- A whole number of 64 bits without a sign. -/
def nat64 : Codec Nat where
  write n := .number n
  read := do pure (← readInt 0 Text.Decimal.nat64High).toNat

/-- A list of values. -/
def list {α : Type} (c : Codec α) : Codec (List α) where
  write xs := .array (xs.map c.write)
  read := readList c.read

/-- A value or null. -/
def nullable {α : Type} (c : Codec α) : Codec (Option α) where
  write
    | none => .null
    | some a => c.write a
  read := readNullable c.read

/-- A value that is written as a text. -/
def ofText {α : Type} (write : α → String) (parse : String → Option α) : Codec α where
  write a := .string (write a)
  read := do
    match parse (← readText) with
    | some a => pure a
    | none => Reader.fail .mismatch

/-- A date. -/
def date : Codec Time.Date := ofText Time.Date.text Time.Date.ofText?

/-- What a clock shows. -/
def timestamp : Codec Time.Timestamp := ofText Time.Timestamp.text Time.Timestamp.ofText?

end Codec

/-! ## Fields -/

/-- A field of a record. -/
structure Field where
  name : String
  Value : Type
  codec : Codec Value
  /-- The value of the field where an object has no such member. -/
  absent : Option Value
  /-- The value of the field where an array ends before it. -/
  short : Option Value
  /-- Whether a value is left out when it is written. -/
  skipped : Value → Bool

namespace Field

/-- A field that must be there. -/
def required {α : Type} (name : String) (codec : Codec α) : Field :=
  ⟨name, α, codec, none, none, fun _ => false⟩

/-- A field with a value that stands in for it. -/
def defaulted {α : Type} (name : String) (codec : Codec α) (value : α) : Field :=
  ⟨name, α, codec, some value, some value, fun _ => false⟩

/-- A field that may be null, and that an object may lack. -/
def nullable {α : Type} (name : String) (codec : Codec α) : Field :=
  ⟨name, Option α, codec.nullable, some none, none, fun _ => false⟩

/-- A field that may be null and that may always be missing. -/
def optional {α : Type} (name : String) (codec : Codec α) : Field :=
  ⟨name, Option α, codec.nullable, some none, some none, fun _ => false⟩

/-- The same, left out when it is written without a value. -/
def sparse {α : Type} (name : String) (codec : Codec α) : Field :=
  ⟨name, Option α, codec.nullable, some none, some none, Option.isNone⟩

end Field

/-- A record: its fields in order. -/
abbrev Record := List Field

/-- The values of a record's fields. -/
def Values : Record → Type
  | [] => Unit
  | f :: fs => f.Value × Values fs

/-- The values that have been read so far. -/
def Slots : Record → Type
  | [] => Unit
  | f :: fs => Option f.Value × Slots fs

/-- Nothing read yet. -/
def Slots.empty : (fs : Record) → Slots fs
  | [] => ()
  | _ :: fs => (none, Slots.empty fs)

/-! ## Writing -/

/-- The members of an object with these values. -/
def writeMembers : (fs : Record) → Values fs → List (String × Json)
  | [], _ => []
  | f :: fs, (v, vs) =>
    if f.skipped v then writeMembers fs vs
    else (f.name, f.codec.write v) :: writeMembers fs vs

/-- The values as an object. -/
def write (fs : Record) (vs : Values fs) : Json := .object (writeMembers fs vs)

/-! ## Reading -/

/-- Reads the value of the member with this name into its slot, behind the name. A field that is
already there is refused; a name that no field has is passed over. -/
def readMember : (fs : Record) → String → Slots fs → Reader (Slots fs)
  | [], _, s => do
    readColon
    skipValue
    pure s
  | f :: fs, name, (slot, slots) =>
    if name = f.name then
      if slot.isSome then Reader.fail .mismatch
      else do
        readColon
        pure (some (← f.codec.read), slots)
    else do
      pure (slot, ← readMember fs name slots)

/-- The values of all slots, if each has one or something stands in for it. -/
def fill? : (fs : Record) → Slots fs → Option (Values fs)
  | [], _ => some ()
  | f :: fs, (slot, slots) => do
    let v ← slot.or f.absent
    let vs ← fill? fs slots
    pure (v, vs)

/-- Reads the fields from the items of an array, up to its bracket but without it. -/
def readPositions (first : Bool) : (fs : Record) → Reader (Values fs)
  | [] => pure ()
  | f :: fs => do
    if ← nextItem first then
      let v ← f.codec.read
      pure (v, ← readPositions false fs)
    else match f.short with
      | some v => pure (v, ← readPositions first fs)
      | none => Reader.fail .mismatch

/-- Reads a record. -/
def readRecord (fs : Record) : Reader (Values fs) :=
  readBy fun b =>
    if b = 0x7B then some (do
      skipByte
      let slots ← readMembers (readMember fs) (Slots.empty fs)
      match fill? fs slots with
      | none => Reader.fail .mismatch
      | some vs => do endMembers; pure vs)
    else if b = 0x5B then some (do
      skipByte
      let vs ← readPositions true fs
      endItems
      pure vs)
    else none

/-- Reads a value and the end of the text behind it. -/
def readWhole {α : Type} (read : Reader α) (bytes : Bytes) : Except Fault α :=
  match read bytes with
  | .fault f _ => .error f
  | .value a rest => if (skipSpace rest).isEmpty then .ok a else .error .malformed

end SignIn.Json
