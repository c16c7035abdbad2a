import ClassWeaver.Identity.TypeDescriptor

/-!
# The intern table

Every type that was ever read is kept once, under its canonical name, and is known by its place in the table.
The table only grows. Readings that go through the table intern what they read even when the text as a whole
is refused; `lookup` never adds anything.

## Contents

* `InternTable`, `find?`, `intern` — the table and its two operations.
* `fieldType`, `ofDescriptor`, `ofInternalName`, `of`, `ofPrimitive` — readings through the table.
* `lookup` — asking without reading.
-/

namespace ClassWeaver.Identity

/-- A place in an intern table; two descriptors are the same entry when their places are equal. -/
structure Entry where
  place : Nat
  deriving DecidableEq, Repr

/-- The types that were read so far, in the order of their first reading. -/
structure InternTable where
  types : Array TypeDescriptor
  deriving DecidableEq

namespace InternTable

/-- The table before any reading. -/
def empty : InternTable :=
  ⟨#[]⟩

/-- The type at a place. -/
def get? (t : InternTable) (e : Entry) : Option TypeDescriptor :=
  t.types[e.place]?

/-- The place of the type with the given canonical name. -/
def find? (t : InternTable) (name : String) : Option Entry :=
  (t.types.findIdx? (·.name == name)).map Entry.mk

/-- The place of a type, which is added when no type of its name is present. -/
def intern (t : InternTable) (d : TypeDescriptor) : Entry × InternTable :=
  match t.find? d.name with
  | some e => (e, t)
  | none => (⟨t.types.size⟩, ⟨t.types.push d⟩)

/-- Interns a type that was read, and passes a refusal on. -/
def internResult (t : InternTable) : Except Violation TypeDescriptor → Except Violation Entry × InternTable
  | .ok d =>
    let (e, t) := t.intern d
    (.ok e, t)
  | .error v => (.error v, t)

/-- Reads one field type off the front of a text. -/
def fieldType (t : InternTable) (input : List Char) :
    Except Violation (Entry × List Char) × InternTable :=
  match TypeDescriptor.parseFieldType input with
  | .error v => (.error v, t)
  | .ok (d, rest) =>
    let (e, t) := t.intern d
    (.ok (e, rest), t)

/-- Reads one complete descriptor; a type in front of superfluous text stays interned. -/
def ofDescriptor (t : InternTable) (text : String) : Except Violation Entry × InternTable :=
  match t.fieldType text.toList with
  | (.error v, t) => (.error v, t)
  | (.ok (e, []), t) => (.ok e, t)
  | (.ok (_, _ :: _), t) => (.error (.invalidDescriptor text), t)

/-- Reads any spelling of a type. -/
def of (t : InternTable) (text : String) : Except Violation Entry × InternTable :=
  let cs := Text.trimChars text.toList
  if TypeDescriptor.isDescriptorForm cs then t.ofDescriptor (String.ofList cs)
  else t.internResult (TypeDescriptor.ofDotted cs)

/-- Reads an internal name. -/
def ofInternalName (t : InternTable) (text : String) : Except Violation Entry × InternTable :=
  if text.toList.head? == some '[' then t.ofDescriptor text else t.of text

/-- The entry of a primitive type. -/
def ofPrimitive (t : InternTable) (p : Primitive) : Entry × InternTable :=
  t.intern (TypeDescriptor.ofPrimitive p)

/-- The entry of the type that a text spells, if that type was read before. -/
def lookup (t : InternTable) (text : String) : Option Entry :=
  (TypeDescriptor.find? text).bind fun d => t.find? d.name

end InternTable

end ClassWeaver.Identity
