import ClassWeaver.Code.Payload

/-!
# Edits of classes

Changes of a class file that may fail. An edit that fails leaves the class as far as it got: additions to the
constant pool stay, and members and attributes are only touched by a step that can no longer fail.

## Contents

* `ClassEdit`, `onPool` — edits, and additions to the pool as edits.
* `addInterface`, `addField`, `addAttribute`, `addMethod` — new parts of a class.
* `ClassFile.code`, `setCode` — reading and replacing the body of a method.
-/

namespace ClassWeaver

/-- An edit of a class that may fail; the class is kept either way. -/
abbrev ClassEdit (α : Type) :=
  ExceptT Defect (StateM ClassFile) α

namespace ClassEdit

/-- An addition to the constant pool of the class. -/
def onPool {α : Type} (addition : ConstantPool.Addition α) : ClassEdit α := fun c =>
  let (result, pool) := addition.run c.pool
  (result, { c with pool })

/-- Makes the class of the given internal name one of the interfaces. -/
def addInterface (name : String) : ClassEdit Unit := do
  let index ← onPool (ConstantPool.addClass name)
  modify fun c => { c with interfaces := c.interfaces ++ [index] }

/-- Adds a field behind the others. -/
def addField (access : AccessFlags) (name descriptor : String) : ClassEdit Unit := do
  let nameIndex ← onPool (ConstantPool.addUtf8 name)
  let descriptorIndex ← onPool (ConstantPool.addUtf8 descriptor)
  modify fun c => { c with fields := c.fields ++ [⟨access, nameIndex, descriptorIndex, []⟩] }

/-- Adds an attribute behind the others. -/
def addAttribute (name : String) (info : List UInt8) : ClassEdit Unit := do
  let nameIndex ← onPool (ConstantPool.addUtf8 name)
  modify fun c => { c with attributes := c.attributes ++ [⟨nameIndex, info⟩] }

/-- A new method behind the others, with its position. -/
def addMethod (access : AccessFlags) (name descriptor : String) : ClassEdit Nat := do
  let nameIndex ← onPool (ConstantPool.addUtf8 name)
  let descriptorIndex ← onPool (ConstantPool.addUtf8 descriptor)
  modifyGet fun c =>
    (c.methods.length, { c with methods := c.methods ++ [⟨access, nameIndex, descriptorIndex, []⟩] })

end ClassEdit

/-- The name of the attribute that holds a method's body. -/
def codeName : String :=
  "Code"

/-- The position of the attribute that holds a method's body. -/
def Member.codePosition? (m : Member) (pool : ConstantPool) : Option Nat :=
  attributePosition? m.attributes pool codeName

/-- The member with the payload of the attribute at a position replaced. -/
def Member.setInfo (m : Member) (position : Nat) (info : List UInt8) : Member :=
  { m with attributes := m.attributes.modify position fun a => { a with info } }

/-- The body of a method, if it has one. -/
def ClassFile.code (c : ClassFile) (index : Nat) : Except Defect (Option MethodBody) := do
  let m ← c.method index
  match (m.codePosition? c.pool).bind (m.attributes[·]?) with
  | some a => some <$> MethodBody.decode c.pool a.info
  | none => return none

namespace ClassEdit

/-- Applies a change to the method at a position. -/
def modifyMethod (index : Nat) (change : Member → Member) : ClassEdit Unit :=
  modify fun c => { c with methods := c.methods.modify index change }

/-- Replaces the body of a method, or gives it one in front of its other attributes. -/
def setCode (index : Nat) (body : MethodBody) : ClassEdit Unit := do
  let c ← get
  let m ← c.method index
  let position? := m.codePosition? c.pool
  let info ← onPool body.encode
  match position? with
  | some position => modifyMethod index (·.setInfo position info)
  | none =>
    let nameIndex ← onPool (ConstantPool.addUtf8 codeName)
    modifyMethod index fun m => { m with attributes := ⟨nameIndex, info⟩ :: m.attributes }

end ClassEdit

end ClassWeaver
