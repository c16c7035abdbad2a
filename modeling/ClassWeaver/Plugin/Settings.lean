import ClassWeaver.Json.Reading

/-!
# Settings of transformers

What a transformer lets its users tune, and the documents that hold it. Only objects are accepted as documents;
a document that is refused leaves the settings as they were, unless the transformer itself decides otherwise.

## Contents

* `SettingsFailure` — why a document was refused or could not be made.
* `Settings`, `serialize`, `deserialize`, `defaults` — settings and the three things one can do with them.
* `SettingsFormat`, `Settings.typed`, `Settings.ofRecord` — settings of a type of values.
-/

namespace ClassWeaver

/-- Why a document of settings was refused or could not be made. -/
inductive SettingsFailure
  | document (mismatch : Json.Mismatch)
  | notAnObject
  deriving DecidableEq, Repr

namespace SettingsFailure

/-- The text shown for a failure. -/
def message : SettingsFailure → String
  | document mismatch => s!"Invalid configuration document: {mismatch.message}"
  | notAnObject => "Configuration document must be a JSON object"

/-- The diagnostic code of a failure. -/
def code : SettingsFailure → String
  | document _ => "graft::config::document"
  | notAnObject => "graft::config::shape"

end SettingsFailure

/-- Settings that are in force, with the ways to write them, to read them and to fill an empty document. -/
structure Settings where
  live : Json
  write : Json → Except SettingsFailure Json
  /-- From the live settings and a document: the settings then in force, and whether the document was accepted. -/
  read : Json → Json → Json × Except SettingsFailure Unit
  skeleton : Except SettingsFailure (List (String × Json))

namespace Settings

/-- The settings in force as a document. -/
def serialize (s : Settings) : Except SettingsFailure Json :=
  s.write s.live

/-- Takes settings from a document, which has to be an object. -/
def deserialize (s : Settings) : Json → Except SettingsFailure Unit × Settings
  | .object fields =>
    let (live, result) := s.read s.live (.object fields)
    (result, { s with live })
  | _ => (.error .notAnObject, s)

/-- The document to start from. -/
def defaults (s : Settings) : Except SettingsFailure Json :=
  s.skeleton.map Json.ofFields

end Settings

/-! ## Settings of a type -/

/-- Values of a type as documents. -/
structure SettingsFormat (α : Type) where
  toDocument : α → Json
  ofDocument : Json → Except Json.Mismatch α
  default : α

namespace Settings

/-- The fields of a document that is an object. -/
def fieldsOf : Json → Except SettingsFailure (List (String × Json))
  | .object fields => .ok fields
  | _ => .error .notAnObject

/-- Settings that are a value of a type, starting from the given one. -/
def typed {α : Type} (format : SettingsFormat α) (start : α) : Settings where
  live := format.toDocument start
  write := .ok
  read live document :=
    match format.ofDocument document with
    | .ok value => (format.toDocument value, .ok ())
    | .error mismatch => (live, .error (.document mismatch))
  skeleton := fieldsOf (format.toDocument format.default)

/-- Records with the given fields; one that a document lacks keeps its default. -/
def recordFormat (format : Json.RecordFormat) (defaults : List (String × Json)) :
    SettingsFormat (List (String × Json)) where
  toDocument := Json.ofFields
  ofDocument document := do return defaults ++ (← Json.readRecord format document)
  default := defaults

/-- Settings that are a record, starting from the defaults. -/
def ofRecord (format : Json.RecordFormat) (defaults : List (String × Json)) : Settings :=
  typed (recordFormat format defaults) defaults

end Settings

end ClassWeaver
