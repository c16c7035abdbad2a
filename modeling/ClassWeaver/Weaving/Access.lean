import ClassWeaver.Weaving.Failure
import ClassWeaver.Weaving.Target

/-!
# Opening access

The weaving that serves access targets. In the class that owns a member it makes the member public; in the
class that hosts an accessor it gives the accessor a body that reads the field, or passes its arguments on to the
method. A class that plays neither role is left as it is, and a member or an accessor that the class does not
declare is passed over.

## Contents

* `FieldTarget.accessorBody`, `MethodTarget.accessorBody` — the bodies of accessors.
* `Role`, `Role.apply` — the two roles of a class in a list of targets.
* `Access`, `targetClasses`, `apply` — the weaving.
-/

namespace ClassWeaver

open Identity

/-! ## Bodies of accessors -/

/-- The number of the first local variable behind the receiver, if the method has one. -/
def firstArgument (m : MethodDescriptor) : UInt16 :=
  if m.isStatic then 0 else 1

/-- Local variables that the receiver and the arguments of a method take. -/
def localsOf (m : MethodDescriptor) : UInt16 :=
  firstArgument m + m.argumentSlots

/-- The slots of a type as a field of a body. -/
def slotCount (d : TypeDescriptor) : UInt16 :=
  UInt16.ofNat d.slots

/-- A body that consists of instructions alone. -/
def plainBody (maxStack maxLocals : UInt16) (instructions : List (Instruction Label)) : MethodBody :=
  { MethodBody.empty maxStack maxLocals with instructions }

namespace FieldTarget

/-- The body that reads the field, of the owner given as the argument unless the field is static. -/
def accessorBody (t : FieldTarget) : ConstantPool.Addition MethodBody := do
  let field ← ConstantPool.addFieldRef t.owner.internalName t.field.name t.field.descriptor
  let result := slotCount t.field.type
  let locals := localsOf t.accessor
  if t.field.isStatic then
    return plainBody result locals [.field Opcode.getStatic field, .returnOf t.field.type]
  else
    return plainBody (max result 1) locals [.localVar Opcode.aload (firstArgument t.accessor),
      .field Opcode.getField field, .returnOf t.field.type]

end FieldTarget

namespace MethodTarget

/-- The loads of arguments that start at a local variable. -/
def loads (slot : UInt16) : List TypeDescriptor → List (Instruction Label)
  | [] => []
  | type :: rest => .loadOf type slot :: loads (slot + slotCount type) rest

/-- The call of the method. -/
def call (t : MethodTarget) (method : UInt16) : Instruction Label :=
  if t.method.isStatic then .method Opcode.invokeStatic method
  else if t.ofInterface then .invokeInterface method (1 + t.method.argumentSlots).toUInt8
  else .method Opcode.invokeVirtual method

/-- The body that calls the method with the arguments of the accessor. -/
def accessorBody (t : MethodTarget) : ConstantPool.Addition MethodBody := do
  let method ← ConstantPool.addMethodRef t.owner.internalName t.method.name t.method.descriptor t.ofInterface
  return plainBody (max t.accessor.argumentSlots (slotCount t.method.returnType)) (localsOf t.accessor)
    (loads (firstArgument t.accessor) t.accessor.arguments ++ [t.call method, .returnOf t.method.returnType])

end MethodTarget

/-! ## The two roles of a class -/

/-- The member with public access. -/
def Member.widened (m : Member) : Member :=
  { m with access := m.access.widened }

/-- The member without the flags of methods that have no body. -/
def Member.withBody (m : Member) : Member :=
  { m with access := (m.access.without .abstractBit).without .nativeBit }

namespace Weaving

/-- Makes a field public, if the class declares it. -/
def widenField (f : FieldDescriptor) : Weaving Unit :=
  modify fun c =>
    match c.findField? f.name f.descriptor with
    | some index => { c with fields := c.fields.modify index Member.widened }
    | none => c

/-- Makes a method public, if the class declares it. -/
def widenMethod (m : MethodDescriptor) : Weaving Unit :=
  modify fun c =>
    match c.findMethod? m.name m.descriptor with
    | some index => { c with methods := c.methods.modify index Member.widened }
    | none => c

/-- Gives an accessor its body, if the class declares the accessor. -/
def installAccessor (accessor : MethodDescriptor) (body : ConstantPool.Addition MethodBody) : Weaving Unit := do
  let c ← get
  match c.findMethod? accessor.name accessor.descriptor with
  | none => return ()
  | some index =>
    if (c.methods[index]?.any fun m => m.isStatic != accessor.isStatic) then
      reject s!"accessor {accessor.display} does not match the staticness of the declared method"
    else
      let body ← ofAddition body
      ofEdit (ClassEdit.modifyMethod index Member.withBody)
      ofEdit (ClassEdit.setCode index body)

end Weaving

/-- How targets of one kind are served: who owns the member, who hosts the accessor, and what to do there. -/
structure Role (τ : Type) where
  owner : τ → TypeDescriptor
  accessorOwner : τ → TypeDescriptor
  widen : τ → Weaving Unit
  install : τ → Weaving Unit

namespace Role

variable {τ : Type}

/-- The service of field targets. -/
def fields : Role FieldTarget where
  owner := FieldTarget.owner
  accessorOwner := FieldTarget.accessorOwner
  widen t := Weaving.widenField t.field
  install t := Weaving.installAccessor t.accessor t.accessorBody

/-- The service of method targets. -/
def methods : Role MethodTarget where
  owner := MethodTarget.owner
  accessorOwner := MethodTarget.accessorOwner
  widen t := Weaving.widenMethod t.method
  install t := Weaving.installAccessor t.accessor t.accessorBody

/-- The owners and the hosts of accessors, in the order of targets. -/
def classes (r : Role τ) (targets : List τ) : List TypeDescriptor :=
  targets.flatMap fun t => [r.owner t, r.accessorOwner t]

/-- Serves the targets that the class owns, then those whose accessors it hosts. -/
def apply (r : Role τ) (targets : List τ) : Weaving Unit := do
  let d ← Weaving.ofResult (← get).typeDescriptor
  (targets.filter fun t => r.owner t = d).forM r.widen
  (targets.filter fun t => r.accessorOwner t = d).forM r.install

end Role

/-! ## The weaving -/

/-- Targets to be served, fields before methods. -/
structure Access where
  fields : List FieldTarget
  methods : List MethodTarget
  deriving DecidableEq

namespace Access

/-- Mixed targets, sorted by kind. -/
def ofTargets (targets : List Target) : Access where
  fields := targets.filterMap fun
    | .field t => some t
    | .method _ => none
  methods := targets.filterMap fun
    | .field _ => none
    | .method t => some t

/-- The classes that the weaving may change, in the order of first mention. -/
def targetClasses (a : Access) : List TypeDescriptor :=
  (Role.fields.classes a.fields ++ Role.methods.classes a.methods).eraseDups

/-- Serves the targets. -/
def apply (a : Access) : Weaving Unit := do
  Role.fields.apply a.fields
  Role.methods.apply a.methods

end Access

end ClassWeaver
