import ClassWeaver.ClassFile.Constant

/-!
# The constant pool

The numbered constants of a class. Slot 0 is unusable, and so is the slot behind every long or double. Look-ups
follow the indices inside constants down to texts. Additions reuse the first equal entry and otherwise append,
so no index ever changes its meaning; what an addition in several steps appended before it failed stays.

## Contents

* `ConstantPool`, `get?`, `entries` — slots and usable entries.
* `utf8`, `className`, `nameAndType`, `memberRef` — resolved texts.
* `Addition` and `add`, `addUtf8`, … `addMethodRef` — growing a pool.
* `toBytes`, `decode` — the pool as bytes.
-/

namespace ClassWeaver

open Bytes

/-- The slots of a class's constants. -/
structure ConstantPool where
  slots : Array Constant
  deriving DecidableEq

/-- The texts of a field or method reference. -/
structure MemberRef where
  owner : String
  name : String
  descriptor : String
  deriving DecidableEq, Repr

namespace ConstantPool

/-- The pool with slot 0 only. -/
def empty : ConstantPool :=
  ⟨#[.unusable]⟩

/-- The number of slots, slot 0 included. -/
def count (p : ConstantPool) : Nat :=
  p.slots.size

/-- The constant at an index, if the slot is usable. -/
def get? (p : ConstantPool) (index : UInt16) : Option Constant :=
  match p.slots[index.toNat]? with
  | some .unusable | none => none
  | some c => some c

/-- The usable constants with their indices. -/
def entries (p : ConstantPool) : List (UInt16 × Constant) :=
  (p.slots.toList.zipIdx.filter fun (c, _) => c ≠ .unusable).map fun (c, i) => (UInt16.ofNat i, c)

/-! ## Look-ups -/

/-- The text constant at an index. -/
def utf8 (p : ConstantPool) (index : UInt16) : Except Defect String :=
  match p.get? index with
  | some (.utf8 value) => .ok value.text
  | _ => .error (.badConstant index .utf8)

/-- The internal name of the class constant at an index. -/
def className (p : ConstantPool) (index : UInt16) : Except Defect String :=
  match p.get? index with
  | some (.classRef name) => p.utf8 name
  | _ => .error (.badConstant index .classRef)

/-- The name and the descriptor of the pair at an index. -/
def nameAndType (p : ConstantPool) (index : UInt16) : Except Defect (String × String) :=
  match p.get? index with
  | some (.nameAndType name descriptor) => do
    let n ← p.utf8 name
    let d ← p.utf8 descriptor
    return (n, d)
  | _ => .error (.badConstant index .nameAndType)

/-- The texts of the field or method reference at an index. -/
def memberRef (p : ConstantPool) (index : UInt16) : Except Defect MemberRef :=
  match p.get? index with
  | some (.fieldRef owner member) | some (.methodRef owner member)
  | some (.interfaceMethodRef owner member) => do
    let o ← p.className owner
    let (n, d) ← p.nameAndType member
    return ⟨o, n, d⟩
  | _ => .error (.badConstant index .memberReference)

/-- Whether the constant at an index is a text equal to `text`. -/
def hasText (p : ConstantPool) (index : UInt16) (text : String) : Bool :=
  match p.utf8 index with
  | .ok t => t == text
  | .error _ => false

/-! ## Additions -/

/-- An edit of a constant pool that may fail; the pool is kept either way. -/
abbrev Addition (α : Type) :=
  ExceptT Defect (StateM ConstantPool) α

/-- The index of an equal constant, or of `c` appended; a pool of 65535 slots is full. -/
def add (c : Constant) : Addition UInt16 := fun p =>
  match p.slots.findIdx? (· == c) with
  | some i => (.ok (UInt16.ofNat i), p)
  | none =>
    if p.count + c.width > 65535 then (.error .poolOverflow, p)
    else
      let slots := p.slots.push c
      (.ok (UInt16.ofNat p.count), ⟨if c.isWide then slots.push .unusable else slots⟩)

/-- A text. -/
def addUtf8 (text : String) : Addition UInt16 :=
  add (.utf8 (.ofText text))

/-- A class, by its internal name. -/
def addClass (internalName : String) : Addition UInt16 := do
  let name ← addUtf8 internalName
  add (.classRef name)

/-- A string. -/
def addString (text : String) : Addition UInt16 := do
  let value ← addUtf8 text
  add (.string value)

/-- An integer. -/
def addInteger (value : Int32) : Addition UInt16 :=
  add (.integer value)

/-- A name and a descriptor. -/
def addNameAndType (name descriptor : String) : Addition UInt16 := do
  let n ← addUtf8 name
  let d ← addUtf8 descriptor
  add (.nameAndType n d)

/-- A field of a class. -/
def addFieldRef (owner name descriptor : String) : Addition UInt16 := do
  let o ← addClass owner
  let member ← addNameAndType name descriptor
  add (.fieldRef o member)

/-- A method of a class or of an interface. -/
def addMethodRef (owner name descriptor : String) (ofInterface : Bool) : Addition UInt16 := do
  let o ← addClass owner
  let member ← addNameAndType name descriptor
  add (if ofInterface then .interfaceMethodRef o member else .methodRef o member)

/-! ## Bytes -/

/-- The number of slots and the constants. -/
def toBytes (p : ConstantPool) : List UInt8 :=
  count16 p.count ++ p.slots.toList.flatMap Constant.toBytes

/-- Fills `n` more slots. A wide constant in the last of them takes one slot more than announced. -/
def fill (slots : Array Constant) : Nat → Decoder (Array Constant)
  | 0 => fun bytes => .ok (slots, bytes)
  | 1 => fun bytes =>
    match Constant.decode bytes with
    | .error e => .error e
    | .ok (c, rest) => .ok (if c.isWide then (slots.push c).push .unusable else slots.push c, rest)
  | n + 2 => fun bytes =>
    match Constant.decode bytes with
    | .error e => .error e
    | .ok (c, rest) =>
      if c.isWide then fill ((slots.push c).push .unusable) n rest else fill (slots.push c) (n + 1) rest

/-- A pool behind its number of slots. -/
def decode : Decoder ConstantPool := do
  let count ← Decoder.u2
  let slots ← fill #[.unusable] (count.toNat - 1)
  return ⟨slots⟩

end ConstantPool

end ClassWeaver
