import ClassWeaver.ClassFile.AccessFlags
import ClassWeaver.ClassFile.ConstantPool
import ClassWeaver.Identity.TypeDescriptor

/-!
# Class files

The structure of a class file as its bytes give it: versions, constants, flags, and lists of members and
attributes whose names are constant indices. `ofBytes` reads a whole file, `toBytes` writes one. Attribute
payloads are byte runs that other modules interpret.

## Contents

* `Attribute`, `Member`, `ClassFile` — the structure.
* `toBytes`, `ofBytes` — writing and reading.
* `name`, `superName`, `interfaceNames`, `typeDescriptor` — the names a class gives.
* `findField?`, `findMethod?`, `attributePosition?` — members and attributes by name.
-/

namespace ClassWeaver

open Bytes

/-- A named payload of a class, a member or a method body. -/
structure Attribute where
  nameIndex : UInt16
  info : List UInt8
  deriving DecidableEq, Repr

/-- A field or a method. -/
structure Member where
  access : AccessFlags
  nameIndex : UInt16
  descriptorIndex : UInt16
  attributes : List Attribute
  deriving DecidableEq, Repr

/-- A class file. -/
structure ClassFile where
  minorVersion : UInt16
  majorVersion : UInt16
  pool : ConstantPool
  access : AccessFlags
  thisClass : UInt16
  superClass : UInt16
  interfaces : List UInt16
  fields : List Member
  methods : List Member
  attributes : List Attribute
  deriving DecidableEq

/-- The position of the first attribute with the given name. -/
def attributePosition? (attributes : List Attribute) (pool : ConstantPool) (name : String) : Option Nat :=
  attributes.findIdx? fun a => pool.hasText a.nameIndex name

/-! ## Writing -/

/-- Items behind their 16-bit count. -/
def countedBytes {α : Type} (item : α → List UInt8) (items : List α) : List UInt8 :=
  count16 items.length ++ items.flatMap item

/-- The bytes of an attribute. -/
def Attribute.toBytes (a : Attribute) : List UInt8 :=
  u16 a.nameIndex ++ sized a.info

/-- The bytes of a member. -/
def Member.toBytes (m : Member) : List UInt8 :=
  u16 m.access.bits ++ u16 m.nameIndex ++ u16 m.descriptorIndex ++
    countedBytes Attribute.toBytes m.attributes

/-! ## Reading -/

/-- One attribute. -/
def Attribute.decode : Decoder Attribute := do
  let nameIndex ← Decoder.u2
  let info ← Decoder.sizedRun
  return ⟨nameIndex, info⟩

/-- One member. -/
def Member.decode : Decoder Member := do
  let access ← Decoder.u2
  let nameIndex ← Decoder.u2
  let descriptorIndex ← Decoder.u2
  let attributes ← Decoder.counted Attribute.decode
  return ⟨⟨access⟩, nameIndex, descriptorIndex, attributes⟩

/-- Whether the member is static. -/
def Member.isStatic (m : Member) : Bool :=
  m.access.contains .staticBit

namespace ClassFile

/-- The number that class files start with. -/
def magic : UInt32 :=
  0xCAFEBABE

/-- The bytes of a class file. -/
def toBytes (c : ClassFile) : List UInt8 :=
  u32 magic ++ (u16 c.minorVersion ++ (u16 c.majorVersion ++ (c.pool.toBytes ++ (u16 c.access.bits ++
    (u16 c.thisClass ++ (u16 c.superClass ++ (countedBytes u16 c.interfaces ++
      (countedBytes Member.toBytes c.fields ++ (countedBytes Member.toBytes c.methods ++
        countedBytes Attribute.toBytes c.attributes)))))))))

/-- What stands behind the magic number. -/
def decodeBody : Decoder ClassFile := do
  let minorVersion ← Decoder.u2
  let majorVersion ← Decoder.u2
  let pool ← ConstantPool.decode
  let access ← Decoder.u2
  let thisClass ← Decoder.u2
  let superClass ← Decoder.u2
  let interfaces ← Decoder.counted Decoder.u2
  let fields ← Decoder.counted Member.decode
  let methods ← Decoder.counted Member.decode
  let attributes ← Decoder.counted Attribute.decode
  return ⟨minorVersion, majorVersion, pool, ⟨access⟩, thisClass, superClass, interfaces, fields, methods,
    attributes⟩

/-- The internal name of the class. -/
def name (c : ClassFile) : Except Defect String :=
  c.pool.className c.thisClass

/-- Reads a class file: the magic number, the structure, nothing behind it, and a class that has a name. -/
def ofBytes (bytes : List UInt8) : Except Defect ClassFile :=
  match Decoder.u4 bytes with
  | .error _ => .error (.truncated 0)
  | .ok (found, rest) =>
    if found ≠ magic then .error (.badMagic found)
    else
      match decodeBody rest with
      | .error e => .error (.truncated (bytes.length - e.left))
      | .ok (c, []) =>
        match c.name with
        | .ok _ => .ok c
        | .error e => .error e
      | .ok (_, trailing) => .error (.malformed (.trailingBytes trailing.length))

/-! ## Names -/

/-- The identity of the class. -/
def typeDescriptor (c : ClassFile) : Except Defect Identity.TypeDescriptor :=
  match c.name with
  | .error e => .error e
  | .ok n =>
    match Identity.TypeDescriptor.ofInternalName n with
    | .ok d => .ok d
    | .error v => .error (.descriptor v)

/-- The internal name of the superclass, if there is one. -/
def superName (c : ClassFile) : Except Defect (Option String) :=
  if c.superClass = 0 then .ok none else some <$> c.pool.className c.superClass

/-- The internal names of the interfaces. -/
def interfaceNames (c : ClassFile) : Except Defect (List String) :=
  c.interfaces.mapM c.pool.className

/-- Whether the class is an interface. -/
def isInterface (c : ClassFile) : Bool :=
  c.access.contains .interfaceBit

/-- The name of a member. -/
def memberName (c : ClassFile) (m : Member) : Except Defect String :=
  c.pool.utf8 m.nameIndex

/-- The binary descriptor of a member. -/
def memberDescriptor (c : ClassFile) (m : Member) : Except Defect String :=
  c.pool.utf8 m.descriptorIndex

/-- The position of the first member with the given name and descriptor. -/
def findMember? (c : ClassFile) (members : List Member) (name descriptor : String) : Option Nat :=
  members.findIdx? fun m => c.pool.hasText m.nameIndex name && c.pool.hasText m.descriptorIndex descriptor

/-- The position of the first field with the given name and descriptor. -/
def findField? (c : ClassFile) (name descriptor : String) : Option Nat :=
  c.findMember? c.fields name descriptor

/-- The position of the first method with the given name and descriptor. -/
def findMethod? (c : ClassFile) (name descriptor : String) : Option Nat :=
  c.findMember? c.methods name descriptor

/-- The method at a position. -/
def method (c : ClassFile) (index : Nat) : Except Defect Member :=
  match c.methods[index]? with
  | some m => .ok m
  | none => .error (.malformed (.noMethod index))

/-- The position of the first class attribute with the given name. -/
def attributePosition? (c : ClassFile) (name : String) : Option Nat :=
  ClassWeaver.attributePosition? c.attributes c.pool name

end ClassFile

end ClassWeaver
