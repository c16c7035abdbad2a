import ClassWeaver.Weaving.Failure
import ClassWeaver.Identity.MemberDescriptor

/-!
# Patches of methods

Weavings that change the bodies of named methods and keep all else. Several patches may name one method; each
sees the body that the one before it left. A body that a patch did not change is not written again.

## Contents

* `MethodBody.replaceEach` — replacing instructions one by one.
* `MethodPatch`, `MethodPatches` — patches and lists of them; `targetClasses`, `apply`.
-/

namespace ClassWeaver

open Identity

/-- A change of a body, with access to the constants. -/
abbrev BodyChange :=
  MethodBody → PoolWeaving MethodBody

/-- A choice of instructions to put in place of one; none keeps it. -/
abbrev InstructionChoice :=
  Instruction Label → PoolWeaving (Option (List (Instruction Label)))

namespace MethodBody

/-- What an instruction is replaced with. -/
def replacement (f : InstructionChoice) (i : Instruction Label) : PoolWeaving (List (Instruction Label)) := do
  return (← f i).getD [i]

/-- The body with every instruction replaced as `f` chooses, from the first on. -/
def replaceEach (f : InstructionChoice) : BodyChange := fun b => do
  let pieces ← b.instructions.mapM (replacement f)
  return { b with instructions := pieces.flatten }

end MethodBody

/-- A change of the body of a named method. -/
structure MethodPatch where
  owner : TypeDescriptor
  name : String
  descriptor : String
  change : BodyChange

namespace MethodPatch

/-- The patch of the given method of a class. -/
def ofMethod (owner : TypeDescriptor) (m : MethodDescriptor) (change : BodyChange) : MethodPatch :=
  ⟨owner, m.name, m.descriptor, change⟩

/-- Changes the method in the class at hand, if it declares the method with a body. -/
def apply (p : MethodPatch) : Weaving Unit := do
  let c ← get
  match c.findMethod? p.name p.descriptor with
  | none => return ()
  | some index =>
    match ← Weaving.ofResult (c.code index) with
    | none => return ()
    | some body =>
      let changed ← Weaving.onPool (p.change body)
      if changed = body then return ()
      else Weaving.ofEdit (ClassEdit.setCode index changed)

end MethodPatch

/-- Patches in the order of their registration. -/
abbrev MethodPatches :=
  List MethodPatch

namespace MethodPatches

/-- The classes that the patches may change, in the order of first mention. -/
def targetClasses (ps : MethodPatches) : List TypeDescriptor :=
  (ps.map MethodPatch.owner).eraseDups

/-- Applies the patches of the class at hand. -/
def apply (ps : MethodPatches) : Weaving Unit := do
  let d ← Weaving.ofResult (← get).typeDescriptor
  (ps.filter fun p => p.owner = d).forM MethodPatch.apply

end MethodPatches

end ClassWeaver
