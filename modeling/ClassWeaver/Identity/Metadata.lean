import ClassWeaver.Identity.Violation
import ClassWeaver.Json.Reading
import ClassWeaver.Text.Blank

/-!
# Metadata of plugins and transformers

What a plugin and a transformer say about themselves. Values come from fields given one by one or from a
document; both ways go through the same checks, in the same order, and give the same errors. Which texts are web addresses is
up to a library.

## Contents

* `isPluginId` — the ids that plugins may have.
* `AddressSyntax` — a way to read web addresses.
* `PluginFields`, `PluginMetadata` — a plugin, before and after the checks; `ofDocument`, `toDocument`.
* `TransformerData` — a transformer; `registryName`, `ofDocument`, `toDocument`.
-/

namespace ClassWeaver.Identity

open ClassWeaver.Text
open Json (Mismatch)

/-! ## Ids -/

/-- Whether a character may stand in a plugin's id behind the first one. -/
def isIdChar (c : Char) : Bool :=
  ('a' ≤ c && c ≤ 'z') || ('0' ≤ c && c ≤ '9') || c == '_' || c == '-'

/-- Whether a text is a plugin's id: a small letter and up to 63 small letters, digits, underscores or dashes. -/
def isPluginId (id : String) : Bool :=
  match id.toList with
  | first :: rest => 'a' ≤ first && first ≤ 'z' && rest.all isIdChar && rest.length ≤ 63
  | [] => false

/-- Checks a plugin's id; an id that is missing has an error of its own. -/
def checkPluginId (field id : String) : Except Violation Unit :=
  if id.isEmpty then .error (.missingField field)
  else if isPluginId id then .ok ()
  else .error (.invalidPluginId id)

/-! ## Plugins -/

/-- The fields of a plugin before any check. -/
structure PluginFields where
  id : String
  version : Option String
  name : Option String
  logo : Option String
  url : Option String
  credits : Option String
  description : Option String
  authors : List String
  deriving DecidableEq, Repr

/-- What a plugin says about itself. -/
structure PluginMetadata where
  id : String
  version : String
  name : String
  logo : Option String
  url : Option String
  credits : Option String
  description : Option String
  authors : List String
  deriving DecidableEq, Repr

/-- A field that has to be there and to hold more than blanks. -/
def required (field : String) : Option String → Except Violation String
  | some text => if isBlankText text then .error (.missingField field) else .ok text
  | none => .error (.missingField field)

/-- A way to read absolute web addresses. -/
class AddressSyntax where
  /-- The scheme of an address, or why the text is none. -/
  scheme : String → Except String String

/-- Checks that a text is an address that a browser can open. -/
def checkUrl [AddressSyntax] (url : String) : Except Violation Unit :=
  match AddressSyntax.scheme url with
  | .error reason => .error (.invalidUrl url reason)
  | .ok scheme =>
    if scheme == "http" || scheme == "https" then .ok ()
    else .error (.invalidUrl url s!"scheme '{scheme}' is not http or https")

/-- The first text that occurred before. -/
def firstRepeated? (seen : List String) : List String → Option String
  | [] => none
  | a :: rest => if seen.contains a then some a else firstRepeated? (a :: seen) rest

/-- Checks that no author is named twice. -/
def checkAuthors (authors : List String) : Except Violation Unit :=
  match firstRepeated? [] authors with
  | some author => .error (.duplicateAuthor author)
  | none => .ok ()

namespace PluginFields

/-- Checks the fields in their order. -/
def build [AddressSyntax] (f : PluginFields) : Except Violation PluginMetadata := do
  checkPluginId "id" f.id
  let version ← required "version" f.version
  let name ← required "name" f.name
  f.url.forM checkUrl
  checkAuthors f.authors
  return { f with version, name }

/-- How the fields are read from a document. -/
def format : Json.RecordFormat where
  expected := "struct PluginMetadataDocument"
  fields :=
    let optionalText (inArray : Bool) (name : String) : Json.FieldFormat :=
      ⟨name, fun v => (Json.optional Json.text v).map fun _ => (), true, inArray⟩
    [⟨"id", fun v => (Json.text v).map fun _ => (), false, false⟩, optionalText false "version",
      optionalText false "name", optionalText true "logo", optionalText true "url", optionalText true "credits",
      optionalText true "description", ⟨"authors", fun v => (Json.texts v).map fun _ => (), true, true⟩]

/-- The fields that a document gives. -/
def ofDocument (document : Json) : Except Mismatch PluginFields := do
  let fields ← Json.readRecord format document
  let text (name : String) := Json.fieldOr fields name (Json.optional Json.text) none
  return {
    id := ← Json.fieldOr fields "id" Json.text ""
    version := ← text "version"
    name := ← text "name"
    logo := ← text "logo"
    url := ← text "url"
    credits := ← text "credits"
    description := ← text "description"
    authors := ← Json.fieldOr fields "authors" Json.texts [] }

end PluginFields

/-- A text of a document, or null. -/
def optionalJson : Option String → Json
  | some text => .string text
  | none => .null

namespace PluginMetadata

/-- The fields of metadata that was checked. -/
def toFields (m : PluginMetadata) : PluginFields :=
  { m with version := some m.version, name := some m.name }

/-- The metadata that a document gives. -/
def ofDocument [AddressSyntax] (document : Json) : Except Mismatch PluginMetadata := do
  let fields ← PluginFields.ofDocument document
  match fields.build with
  | .ok m => return m
  | .error v => .error (.custom v.message)

/-- The document that gives the metadata. -/
def toDocument (m : PluginMetadata) : Json :=
  .ofFields [("id", .string m.id), ("version", .string m.version), ("name", .string m.name),
    ("logo", optionalJson m.logo), ("url", optionalJson m.url), ("credits", optionalJson m.credits),
    ("description", optionalJson m.description), ("authors", .array (m.authors.map .string))]

/-- The plugin as shown to a reader. -/
def display (m : PluginMetadata) : String :=
  s!"{m.name} ({m.id} {m.version})"

end PluginMetadata

/-! ## Transformers -/

/-- What a transformer says about itself. -/
structure TransformerData where
  pluginId : String
  name : String
  description : Option String
  enabledByDefault : Bool
  deriving DecidableEq, Repr

namespace TransformerData

/-- Checks the id of the owning plugin, then the name. -/
def build (pluginId name : String) (description : Option String) (enabledByDefault : Bool) :
    Except Violation TransformerData := do
  checkPluginId "plugin_id" pluginId
  if isBlankText name || name.toList.contains ':' then .error (.invalidTransformerName name)
  else return ⟨pluginId, name, description, enabledByDefault⟩

/-- The name of the transformer among those of all plugins. -/
def registryName (d : TransformerData) : String :=
  d.pluginId ++ ":" ++ d.name

/-- How the fields are read from a document. -/
def format : Json.RecordFormat where
  expected := "struct TransformerDataDocument"
  fields :=
    [⟨"plugin_id", fun v => (Json.text v).map fun _ => (), false, false⟩,
      ⟨"name", fun v => (Json.text v).map fun _ => (), false, false⟩,
      ⟨"description", fun v => (Json.optional Json.text v).map fun _ => (), true, true⟩,
      ⟨"enabled_by_default", fun v => (Json.boolean v).map fun _ => (), true, true⟩]

/-- The data that a document gives. -/
def ofDocument (document : Json) : Except Mismatch TransformerData := do
  let fields ← Json.readRecord format document
  let pluginId ← Json.fieldOr fields "plugin_id" Json.text ""
  let name ← Json.fieldOr fields "name" Json.text ""
  let description ← Json.fieldOr fields "description" (Json.optional Json.text) none
  let enabledByDefault ← Json.fieldOr fields "enabled_by_default" Json.boolean true
  match build pluginId name description enabledByDefault with
  | .ok d => return d
  | .error v => .error (.custom v.message)

/-- The document that gives the data. -/
def toDocument (d : TransformerData) : Json :=
  .ofFields [("plugin_id", .string d.pluginId), ("name", .string d.name),
    ("description", optionalJson d.description), ("enabled_by_default", .bool d.enabledByDefault)]

end TransformerData

end ClassWeaver.Identity
