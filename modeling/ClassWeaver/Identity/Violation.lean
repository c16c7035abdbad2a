/-!
# Violated rules of identities

Identities (type descriptors, members, plugin and transformer metadata, access targets) are only ever built
through checks. `Violation` names the rule that a rejected value breaks; the wording shown to a user and the
diagnostic code are functions of the cause.
-/

namespace ClassWeaver.Identity

/-- Where the type `void` was found although the place needs a value. -/
inductive VoidUse
  /-- As the element of the array type spelled by the text. -/
  | arrayElement (text : String)
  /-- As the type of the field of that name. -/
  | field (name : String)
  /-- As an argument of the method of that name. -/
  | argument (method : String)
  deriving DecidableEq, Repr

/-- The place in words, ready to start a sentence. -/
def VoidUse.describe : VoidUse → String
  | .arrayElement text => s!"array '{text}'"
  | .field name => s!"field '{name}'"
  | .argument method => s!"argument of method '{method}'"

/-- A rule that a rejected identity breaks. -/
inductive Violation
  | missingField (field : String)
  | invalidPluginId (id : String)
  | duplicateAuthor (author : String)
  | invalidUrl (url reason : String)
  | invalidTransformerName (name : String)
  | invalidDescriptor (text : String)
  | voidType (place : VoidUse)
  | invalidTarget (reason : String)
  deriving DecidableEq, Repr

namespace Violation

/-- The text shown for a violation. -/
def message : Violation → String
  | missingField field => s!"Missing required field '{field}'"
  | invalidPluginId id =>
    s!"Invalid plugin id '{id}': must be lowercase and match [a-z][a-z0-9_-]\x7b1,63\x7d"
  | duplicateAuthor author => s!"Duplicate author '{author}'"
  | invalidUrl url reason => s!"Invalid url '{url}': {reason}"
  | invalidTransformerName name =>
    s!"Invalid transformer name '{name}': must be non-empty and contain no ':'"
  | invalidDescriptor text => s!"Invalid descriptor '{text}'"
  | voidType place => s!"{place.describe} may not have type void"
  | invalidTarget reason => s!"Invalid target: {reason}"

/-- The diagnostic code of a violation. -/
def code : Violation → String
  | missingField _ => "graft::validation::missing_field"
  | invalidPluginId _ => "graft::validation::plugin_id"
  | duplicateAuthor _ => "graft::validation::duplicate_author"
  | invalidUrl _ _ => "graft::validation::url"
  | invalidTransformerName _ => "graft::validation::transformer_name"
  | invalidDescriptor _ => "graft::validation::descriptor"
  | voidType _ => "graft::validation::void"
  | invalidTarget _ => "graft::validation::target"

end Violation

end ClassWeaver.Identity
