import ClassWeaver.Json.Basic
import ClassWeaver.Text.Visible

/-!
# Reading values out of documents

Typed views of documents, with the reason why a document does not fit. A record may be given as an object, whose
unknown keys do not matter, or as an array of its fields in their order. The fields of an object are read in the
order of its keys; only then is a missing field reported.

## Contents

* `Mismatch` — why a document does not fit, and its wording.
* `text`, `boolean`, `texts`, `unsigned32`, `signed64`, `optional` — readers of single values.
* `RecordFormat`, `readRecord` — readers of records.
-/

namespace ClassWeaver.Json

/-! ## Mismatches -/

/-- Why a document does not fit. -/
inductive Mismatch
  | missingField (name : String)
  /-- A value of another type than expected. -/
  | invalidType (found expected : String)
  /-- A number of the right type outside the range. -/
  | invalidValue (found : Int) (expected : String)
  | invalidLength (found : Nat) (expected : String)
  /-- A rule of the record itself. -/
  | custom (message : String)
  deriving DecidableEq, Repr

/-- The text shown for a mismatch. -/
def Mismatch.message : Mismatch → String
  | missingField name => s!"missing field `{name}`"
  | invalidType found expected => s!"invalid type: {found}, expected {expected}"
  | invalidValue found expected => s!"invalid value: integer `{found}`, expected {expected}"
  | invalidLength found expected => s!"invalid length {found}, expected {expected}"
  | custom message => message

/-- What a value is, for a report. -/
def describe : Json → String
  | null => "null"
  | bool b => s!"boolean `{b}`"
  | integer n => s!"integer `{n}`"
  | decimal d => s!"floating point `{d.toDocument}`"
  | string s => "string " ++ Text.quoted s
  | array _ => "sequence"
  | object _ => "map"

/-- A value of another type than expected. -/
def mismatch {α : Type} (found : Json) (expected : String) : Except Mismatch α :=
  .error (.invalidType found.describe expected)

/-! ## Single values -/

/-- A text. -/
def text : Json → Except Mismatch String
  | string s => .ok s
  | other => mismatch other "a string"

/-- A boolean. -/
def boolean : Json → Except Mismatch Bool
  | bool b => .ok b
  | other => mismatch other "a boolean"

/-- A list of texts. -/
def texts : Json → Except Mismatch (List String)
  | array values => values.mapM text
  | other => mismatch other "a sequence"

/-- An integer in a range. -/
def integerIn (low high : Int) (name : String) : Json → Except Mismatch Int
  | integer n => if low ≤ n ∧ n ≤ high then .ok n else .error (.invalidValue n name)
  | other => mismatch other name

/-- An unsigned 32-bit integer. -/
def unsigned32 : Json → Except Mismatch Int :=
  integerIn 0 0xFFFFFFFF "u32"

/-- A signed 64-bit integer. -/
def signed64 : Json → Except Mismatch Int :=
  integerIn (-0x8000000000000000) 0x7FFFFFFFFFFFFFFF "i64"

/-- A value that may be null. -/
def optional {α : Type} (read : Json → Except Mismatch α) : Json → Except Mismatch (Option α)
  | null => .ok none
  | value => some <$> read value

/-! ## Records -/

/-- How a field of a record is read. -/
structure FieldFormat where
  name : String
  /-- Checks a value of the field and gives it back. -/
  check : Json → Except Mismatch Unit
  /-- Whether an object may lack the field. -/
  optionalInObject : Bool
  /-- Whether an array may end before the field. -/
  optionalInArray : Bool

/-- The fields of a record, in their order, and the name of the record in reports. -/
structure RecordFormat where
  expected : String
  fields : List FieldFormat

/-- Reads the fields of an object in the order of its keys, then looks for missing ones. -/
def readObject (format : RecordFormat) (fields : List (String × Json)) :
    Except Mismatch (List (String × Json)) := do
  let known ← fields.filterMapM fun (key, value) =>
    match format.fields.find? (·.name == key) with
    | none => return none
    | some f => do
      f.check value
      return some (key, value)
  match format.fields.find? fun f => !f.optionalInObject && (field? f.name known).isNone with
  | some f => .error (.missingField f.name)
  | none => return known

/-- Reads the values of an array as the fields of a record. -/
def readArray (format : RecordFormat) (values : List Json) : Except Mismatch (List (String × Json)) := do
  let paired := format.fields.zip values
  paired.forM fun (f, v) => f.check v
  match (format.fields.drop values.length).find? fun f => !f.optionalInArray with
  | some f =>
    let index := format.fields.findIdx fun g => g.name == f.name
    .error (.invalidLength index (s!"{format.expected} with {format.fields.length} elements"))
  | none =>
    if format.fields.length < values.length then
      .error (.invalidLength values.length "fewer elements in array")
    else return paired.map fun (f, v) => (f.name, v)

/-- The values of a record's fields that a document gives. -/
def readRecord (format : RecordFormat) : Json → Except Mismatch (List (String × Json))
  | object fields => readObject format fields
  | array values => readArray format values
  | other => mismatch other format.expected

/-- The value of a field that was read, or a value in its place. -/
def fieldOr {α : Type} (fields : List (String × Json)) (name : String) (read : Json → Except Mismatch α)
    (otherwise : α) : Except Mismatch α :=
  match field? name fields with
  | some v => read v
  | none => .ok otherwise

end ClassWeaver.Json
