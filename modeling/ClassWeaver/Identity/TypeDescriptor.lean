import ClassWeaver.Identity.Primitive
import ClassWeaver.Identity.Violation
import ClassWeaver.Text.Blank

/-!
# Type descriptors

The identity of a class, primitive or array type. One type has three spellings (dotted name, slashed internal
name, binary descriptor) and exactly one `TypeDescriptor`: an element and an array depth. The invariants are
part of the type: a class name is dotted and no primitive's keyword, a depth fits in a byte, and there is no
array of `void`. So equality of descriptors is equality of what they name.

## Contents

* `isClassName`, `ClassName`, `Element` — what an array is made of.
* `TypeDescriptor` with its renderings `name`, `descriptor`, `internalName`.
* `parseFieldType` — one descriptor off the front of a text, and `ofDescriptor` for a whole text.
* `of`, `ofInternalName` — any spelling.
* `ofComplete?`, `find?` — the same recognition by stripping both ends, for callers that only ask.
-/

namespace ClassWeaver.Identity

open ClassWeaver.Text

/-! ## Class names -/

/-- Whether a character may stand inside a segment of a class name. -/
def isSegmentChar (c : Char) : Bool :=
  !(c == ';' || c == '[' || c == ']' || c == '/' || c == '<' || c == '>' || isBlank c)

/-- Whether a text is made of non-empty segments joined by single dots; `fresh` says that the segment at hand
has no character yet. -/
def isDotted : (fresh : Bool) → List Char → Bool
  | fresh, [] => !fresh
  | fresh, c :: rest =>
    if c == '.' then !fresh && isDotted true rest else isSegmentChar c && isDotted false rest

/-- Whether a text is a dotted class name. -/
def isClassName (cs : List Char) : Bool :=
  isDotted true cs

/-- A dotted class name that is no primitive's keyword. -/
structure ClassName where
  text : String
  dotted : isClassName text.toList = true
  not_keyword : Primitive.ofKeyword? text = none
  deriving DecidableEq

/-- What a type is, its array depth aside. -/
inductive Element
  | primitive (p : Primitive)
  | object (name : ClassName)
  deriving DecidableEq

namespace Element

/-- The element named by a dotted text. -/
def ofDotted? (cs : List Char) : Option Element :=
  let text := String.ofList cs
  match h : Primitive.ofKeyword? text with
  | some p => some (.primitive p)
  | none => if hd : isClassName text.toList = true then some (.object ⟨text, hd, h⟩) else none

/-- The dotted name. -/
def name : Element → String
  | primitive p => p.keyword
  | object n => n.text

/-- The primitive tag. -/
def primitive? : Element → Option Primitive
  | primitive p => some p
  | object _ => none

end Element

/-- Every slash becomes a dot. -/
def slashesToDots (cs : List Char) : List Char :=
  cs.map fun c => if c == '/' then '.' else c

/-- Every dot becomes a slash. -/
def dotsToSlashes (cs : List Char) : List Char :=
  cs.map fun c => if c == '.' then '/' else c

/-! ## Descriptors and their renderings -/

/-- The identity of a class, primitive or array type. -/
structure TypeDescriptor where
  element : Element
  dimensions : Nat
  dimensions_lt : dimensions < 256
  void_scalar : element = .primitive .void → dimensions = 0
  deriving DecidableEq

namespace TypeDescriptor

theorem scalar_dimensions_lt : 0 < 256 :=
  Nat.zero_lt_succ 255

theorem object_void_scalar (name : ClassName) (dimensions : Nat) :
    Element.object name = .primitive .void → dimensions = 0 :=
  nofun

/-- The descriptor of a primitive type. -/
def ofPrimitive (p : Primitive) : TypeDescriptor :=
  ⟨.primitive p, 0, by decide, fun _ => rfl⟩

/-- The canonical name: dotted, with one `[]` for each array dimension. -/
def name (d : TypeDescriptor) : String :=
  String.ofList (d.element.name.toList ++ (List.replicate d.dimensions ['[', ']']).flatten)

/-- The primitive tag, of descriptors that are no arrays only. -/
def primitive? (d : TypeDescriptor) : Option Primitive :=
  if d.dimensions = 0 then d.element.primitive? else none

/-- Whether the type is a primitive one. -/
def isPrimitive (d : TypeDescriptor) : Bool :=
  d.primitive?.isSome

/-- Whether the type is `void`. -/
def isVoid (d : TypeDescriptor) : Bool :=
  d.primitive? == some .void

/-- Whether the type is an array type. -/
def isArray (d : TypeDescriptor) : Bool :=
  0 < d.dimensions

/-- The characters of the binary descriptor. -/
def descriptorChars (d : TypeDescriptor) : List Char :=
  List.replicate d.dimensions '[' ++
    match d.element with
    | .primitive p => [p.letter]
    | .object n => 'L' :: (dotsToSlashes n.text.toList ++ [';'])

/-- The binary descriptor. -/
def descriptor (d : TypeDescriptor) : String :=
  String.ofList d.descriptorChars

/-- The name as class constants spell it. -/
def internalName (d : TypeDescriptor) : String :=
  if d.isArray then d.descriptor
  else if d.isPrimitive then d.name
  else String.ofList (dotsToSlashes d.name.toList)

/-- Slots of the operand stack or of the local variables that a value of the type takes. -/
def slots (d : TypeDescriptor) : Nat :=
  (d.primitive?.map Primitive.slots).getD 1

/-! ## Reading binary descriptors -/

/-- Reads one field type off the front of a text and returns what follows it. -/
def parseFieldType (input : List Char) : Except Violation (TypeDescriptor × List Char) :=
  let invalid := .error (.invalidDescriptor (String.ofList input))
  let depth := (input.takeWhile (· == '[')).length
  if hd : depth < 256 then
    match input.dropWhile (· == '[') with
    | [] => invalid
    | tag :: rest =>
      if tag == 'L' then
        match rest.dropWhile (· != ';') with
        | [] => invalid
        | _ :: after =>
          match Element.ofDotted? (slashesToDots (rest.takeWhile (· != ';'))) with
          | some (.object n) => .ok (⟨.object n, depth, hd, nofun⟩, after)
          | _ => invalid
      else
        match Primitive.ofLetter? tag with
        | none => invalid
        | some p =>
          if hv : p = .void ∧ 0 < depth then
            .error (.voidType (.arrayElement (String.ofList input)))
          else
            .ok (⟨.primitive p, depth, hd, fun h => by simp_all⟩, rest)
  else invalid

/-- Reads a text that is one complete field descriptor. -/
def ofDescriptor (text : String) : Except Violation TypeDescriptor :=
  match parseFieldType text.toList with
  | .error e => .error e
  | .ok (d, []) => .ok d
  | .ok (_, _ :: _) => .error (.invalidDescriptor text)

/-! ## Reading any spelling -/

/-- Whether a trimmed text is spelled as a binary descriptor. -/
def isDescriptorForm (cs : List Char) : Bool :=
  cs.head? == some '[' || (cs.head? == some 'L' && cs.getLast? == some ';')

/-- Splits off the `[]` pairs at the end of a text given backwards, counting on from `n`. -/
def splitPairs (n : Nat) : List Char → Nat × List Char
  | ']' :: '[' :: rest => splitPairs (n + 1) rest
  | rest => (n, rest)

/-- Reads a dotted or slashed name with `[]` suffixes. -/
def ofDotted (cs : List Char) : Except Violation TypeDescriptor :=
  let invalid := .error (.invalidDescriptor (String.ofList cs))
  let (depth, backwards) := splitPairs 0 cs.reverse
  if hd : depth < 256 then
    match Element.ofDotted? (slashesToDots backwards.reverse) with
    | none => invalid
    | some element =>
      if hv : element = .primitive .void ∧ 0 < depth then
        .error (.voidType (.arrayElement (String.ofList cs)))
      else
        .ok ⟨element, depth, hd, fun h => by simp_all⟩
  else invalid

/-- Reads any spelling of a type; blanks at the ends do not count. -/
def of (text : String) : Except Violation TypeDescriptor :=
  let cs := trimChars text.toList
  if isDescriptorForm cs then ofDescriptor (String.ofList cs) else ofDotted cs

/-- Reads an internal name; only a leading bracket makes it a descriptor. -/
def ofInternalName (text : String) : Except Violation TypeDescriptor :=
  if text.toList.head? == some '[' then ofDescriptor text else of text

/-! ## Recognition without a report -/

/-- Recognises a complete binary descriptor by what stands at its two ends. -/
def ofComplete? (cs : List Char) : Option TypeDescriptor :=
  let depth := (cs.takeWhile (· == '[')).length
  let rest := cs.dropWhile (· == '[')
  if hd : depth < 256 then
    match rest with
    | [] => none
    | tag :: inner =>
      if tag == 'L' && inner.getLast? == some ';' then
        match Element.ofDotted? (slashesToDots inner.dropLast) with
        | some (.object n) => some ⟨.object n, depth, hd, nofun⟩
        | _ => none
      else
        match Primitive.ofLetter? tag with
        | some p =>
          if hv : inner.isEmpty && !(p == .void && 0 < depth) then
            some ⟨.primitive p, depth, hd, fun h => by simp_all⟩
          else none
        | none => none
  else none

/-- The descriptor that a text spells, if it spells one. -/
def find? (text : String) : Option TypeDescriptor :=
  let cs := trimChars text.toList
  if isDescriptorForm cs then ofComplete? cs else (ofDotted cs).toOption

/-! ## Order and hashing -/

/-- Descriptors are ordered by their canonical names; the order of characters is that of the encoded bytes. -/
def le (a b : TypeDescriptor) : Bool :=
  decide (a.name ≤ b.name)

/-- A descriptor is hashed as its canonical name; `write` adds a text to the state of a hash. -/
def hashInto {σ : Type} (write : String → σ → σ) (d : TypeDescriptor) (state : σ) : σ :=
  write d.name state

end TypeDescriptor

end ClassWeaver.Identity
