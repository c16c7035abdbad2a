import ClassWeaver.ClassFile.Edit

/-!
# Annotations of classes

The annotations that a class carries, visible ones before invisible ones, and the stamping of a class with an
annotation of its own. An annotation's elements may nest without end, so they are read as a tree.

## Contents

* `ElementValue`, `AnnotationEntry` and their decoders.
* `ClassFile.annotations`, `isAnnotatedWith` — the types of the annotations.
* `ClassEdit.annotate` — stamping, once.
* `isMarked` — whether a class carries the mark of woven classes.
-/

namespace ClassWeaver

open Bytes

/-! ## The data -/

/-- The value of an annotation's element. -/
inductive ElementValue
  /-- A constant or a class, by its tag and its constant index. -/
  | constant (tag : UInt8) (index : UInt16)
  | enum (type name : UInt16)
  | nested (type : UInt16) (elements : List (UInt16 × ElementValue))
  | array (values : List ElementValue)

/-- An annotation: its type and its elements, by constant indices. -/
structure AnnotationEntry where
  type : UInt16
  elements : List (UInt16 × ElementValue)

namespace ElementValue

/-- The tags of constants: `B C D F I J S Z s c`. -/
def constantTags : List Nat :=
  [0x42, 0x43, 0x44, 0x46, 0x49, 0x4A, 0x53, 0x5A, 0x73, 0x63]

/-- An element behind its name, given how values are read. -/
def decodeElement (value : Decoder ElementValue) : Decoder (UInt16 × ElementValue) := do
  let name ← Decoder.u2
  let v ← value
  return (name, v)

/-- A value that nests at most `depth` deep; an unknown tag is refused behind the tag. -/
def decode : (depth : Nat) → Decoder ElementValue
  | 0 => Decoder.stop
  | depth + 1 => do
    let tag ← Decoder.u1
    if constantTags.contains tag.toNat then return constant tag (← Decoder.u2)
    else if tag = 0x65 then
      let type ← Decoder.u2
      let name ← Decoder.u2
      return enum type name
    else if tag = 0x40 then
      let type ← Decoder.u2
      let elements ← Decoder.counted (decodeElement (decode depth))
      return nested type elements
    else if tag = 0x5B then return array (← Decoder.counted (decode depth))
    else Decoder.stop

end ElementValue

/-- An annotation whose values nest at most `depth` deep. -/
def AnnotationEntry.decode (depth : Nat) : Decoder AnnotationEntry := do
  let type ← Decoder.u2
  let elements ← Decoder.counted (ElementValue.decodeElement (ElementValue.decode depth))
  return ⟨type, elements⟩

/-- The annotations of an attribute. A value takes a byte at least, so none nests deeper than there are bytes. -/
def AnnotationEntry.decodeAll : Decoder (List AnnotationEntry) := fun bytes =>
  Decoder.counted (AnnotationEntry.decode bytes.length) bytes

/-! ## Annotations of a class -/

/-- The attribute of annotations that a running program sees. -/
def visibleName : String :=
  "RuntimeVisibleAnnotations"

/-- The attribute of annotations that stay in the class file. -/
def invisibleName : String :=
  "RuntimeInvisibleAnnotations"

namespace ClassFile

/-- The types of the annotations in the first attribute with the given name. -/
def annotationsNamed (c : ClassFile) (attributeName : String) : Except Defect (List String) :=
  match (c.attributePosition? attributeName).bind (c.attributes[·]?) with
  | none => .ok []
  | some a => do
    let annotations ← Decoder.parse AnnotationEntry.decodeAll a.info
    annotations.mapM fun entry => c.pool.utf8 entry.type

/-- The types of the annotations, visible ones first. -/
def annotations (c : ClassFile) : Except Defect (List String) := do
  let visible ← c.annotationsNamed visibleName
  let invisible ← c.annotationsNamed invisibleName
  return visible ++ invisible

/-- Whether the class has an annotation of the given type. -/
def isAnnotatedWith (c : ClassFile) (type : String) : Except Defect Bool := do
  return (← c.annotations).contains type

end ClassFile

/-- The payload with one more annotation, of the given type and without elements. -/
def appendEntry (type : UInt16) : List UInt8 → List UInt8
  | a :: b :: rest => u16 (word a b + 1) ++ (rest ++ (u16 type ++ u16 0))
  | short => short

namespace ClassEdit

/-- Adds an annotation that stays in the class file, unless the class has one of its type. -/
def annotate (type : String) : ClassEdit Bool := do
  if ← (← get).isAnnotatedWith type then return false
  else
    let typeIndex ← onPool (ConstantPool.addUtf8 type)
    match (← get).attributePosition? invisibleName with
    | some position =>
      modify fun c => { c with
        attributes := c.attributes.modify position fun a => { a with info := appendEntry typeIndex a.info } }
    | none =>
      let nameIndex ← onPool (ConstantPool.addUtf8 invisibleName)
      modify fun c => { c with
        attributes := c.attributes ++ [⟨nameIndex, u16 1 ++ (u16 typeIndex ++ u16 0)⟩] }
    return true

end ClassEdit

/-! ## The mark -/

/-- The type of the annotation that every woven class carries. -/
def markType : String :=
  "Lgraft/runtime/Transformed;"

/-- Whether the bytes are a class that was woven. -/
def isMarked (bytes : List UInt8) : Except Defect Bool := do
  (← ClassFile.ofBytes bytes).isAnnotatedWith markType

end ClassWeaver
