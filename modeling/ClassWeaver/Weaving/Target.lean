import ClassWeaver.Identity.MemberDescriptor

/-!
# Access targets

A member of one class that code outside it wants to reach, and the method of another class, the accessor, that
is to reach it. The accessor returns what the member gives and takes what the member takes, behind the owner
itself when the member is not static; a target that breaks this is refused.

## Contents

* `FieldTarget`, `MethodTarget` — checked by `mk?`, shown by `display`.
* `Target` — either of the two.
-/

namespace ClassWeaver

open Identity

/-! ## Fields -/

/-- A field and the accessor that reads it. -/
structure FieldTarget where
  owner : TypeDescriptor
  field : FieldDescriptor
  accessorOwner : TypeDescriptor
  accessor : MethodDescriptor
  deriving DecidableEq

namespace FieldTarget

/-- Checks the accessor's result, then its arguments. -/
def mk? (owner : TypeDescriptor) (field : FieldDescriptor) (accessorOwner : TypeDescriptor)
    (accessor : MethodDescriptor) : Except Violation FieldTarget :=
  if accessor.returnType ≠ field.type then
    .error (.invalidTarget (s!"accessor {accessor.display} returns {accessor.returnType.name} but field " ++
      s!"{field.display} has type {field.type.name}"))
  else if field.isStatic then
    if accessor.arguments.isEmpty then .ok ⟨owner, field, accessorOwner, accessor⟩
    else
      .error (.invalidTarget
        s!"accessor {accessor.display} of static field {field.display} must take no arguments")
  else if accessor.arguments = [owner] then .ok ⟨owner, field, accessorOwner, accessor⟩
  else
    .error (.invalidTarget (s!"accessor {accessor.display} of instance field {field.display} must take " ++
      s!"exactly one {owner.name} argument"))

/-- The target as shown to a reader. -/
def display (t : FieldTarget) : String :=
  s!"{t.owner.name}.{t.field.name} via {t.accessorOwner.name}.{t.accessor.name}"

end FieldTarget

/-! ## Methods -/

/-- A method and the accessor that calls it. -/
structure MethodTarget where
  owner : TypeDescriptor
  method : MethodDescriptor
  accessorOwner : TypeDescriptor
  accessor : MethodDescriptor
  /-- Whether the owner is an interface. -/
  ofInterface : Bool
  deriving DecidableEq

namespace MethodTarget

/-- The arguments that an accessor passes on, if it takes a receiver where one is needed. -/
def forwarded? (owner : TypeDescriptor) (method accessor : MethodDescriptor) : Option (List TypeDescriptor) :=
  if method.isStatic then some accessor.arguments
  else
    match accessor.arguments with
    | receiver :: rest => if receiver = owner then some rest else none
    | [] => none

/-- Checks the accessor's result, its receiver, its arguments, and that it is not the method itself. -/
def mk? (owner : TypeDescriptor) (method : MethodDescriptor) (accessorOwner : TypeDescriptor)
    (accessor : MethodDescriptor) : Except Violation MethodTarget :=
  if accessor.returnType ≠ method.returnType then
    .error (.invalidTarget (s!"accessor {accessor.display} returns {accessor.returnType.name} but " ++
      s!"{method.display} returns {method.returnType.name}"))
  else
    match forwarded? owner method accessor with
    | none =>
      .error (.invalidTarget (s!"accessor {accessor.display} of instance method {method.display} must take a " ++
        s!"{owner.name} receiver first"))
    | some forwarded =>
      if forwarded ≠ method.arguments then
        .error (.invalidTarget s!"accessor {accessor.display} arguments do not match {method.display}")
      else if owner = accessorOwner ∧ method.name = accessor.name ∧ method.descriptor = accessor.descriptor then
        .error (.invalidTarget s!"{owner.name}.{method.name} cannot be its own accessor")
      else .ok ⟨owner, method, accessorOwner, accessor, false⟩

/-- The same target in an interface. -/
def inInterface (t : MethodTarget) : MethodTarget :=
  { t with ofInterface := true }

/-- The target as shown to a reader. -/
def display (t : MethodTarget) : String :=
  s!"{t.owner.name}.{t.method.name} via {t.accessorOwner.name}.{t.accessor.name}"

end MethodTarget

/-! ## Either -/

/-- A member to be reached from outside its class. -/
inductive Target
  | field (t : FieldTarget)
  | method (t : MethodTarget)
  deriving DecidableEq

namespace Target

/-- The class of the member. -/
def owner : Target → TypeDescriptor
  | field t => t.owner
  | method t => t.owner

/-- The class of the accessor. -/
def accessorOwner : Target → TypeDescriptor
  | field t => t.accessorOwner
  | method t => t.accessorOwner

/-- The accessor. -/
def accessor : Target → MethodDescriptor
  | field t => t.accessor
  | method t => t.accessor

/-- Whether the owner is an interface, as far as the target says. -/
def ofInterface : Target → Bool
  | field _ => false
  | method t => t.ofInterface

/-- The member as shown to a reader. -/
def memberDisplay : Target → String
  | field t => t.field.display
  | method t => t.method.display

/-- The target as shown to a reader. -/
def display : Target → String
  | field t => t.display
  | method t => t.display

end Target

end ClassWeaver
