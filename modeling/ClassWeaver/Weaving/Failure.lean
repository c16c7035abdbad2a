import ClassWeaver.ClassFile.Edit

/-!
# Failures of weaving

Why a weaving of a class did not succeed, and weavings as edits that may fail. As with every edit, what was
changed before the failure stays changed.
-/

namespace ClassWeaver

/-- Why a weaving failed. -/
inductive WeavingFailure
  | classData (cause : Defect)
  | identity (cause : Identity.Violation)
  /-- The weaving refused the class. -/
  | rejected (reason : String)
  deriving DecidableEq, Repr

namespace WeavingFailure

/-- The text shown for a failure. -/
def message : WeavingFailure → String
  | classData cause => cause.message
  | identity cause => cause.message
  | rejected reason => reason

/-- The diagnostic code of a failure. -/
def code : WeavingFailure → String
  | classData cause => cause.code
  | identity cause => cause.code
  | rejected _ => "graft::transform::rejected"

end WeavingFailure

/-- A weaving of a class. -/
abbrev Weaving (α : Type) :=
  ExceptT WeavingFailure (StateM ClassFile) α

/-- A change of a constant pool made on behalf of a weaving. -/
abbrev PoolWeaving (α : Type) :=
  ExceptT WeavingFailure (StateM ConstantPool) α

namespace Weaving

/-- A result as a step of a weaving. -/
def ofResult {α : Type} (r : Except Defect α) : Weaving α := fun c =>
  (r.mapError .classData, c)

/-- An edit as a step of a weaving. -/
def ofEdit {α : Type} (edit : ClassEdit α) : Weaving α := fun c =>
  let (r, c) := edit.run c
  (r.mapError .classData, c)

/-- An addition to the constant pool as a step of a weaving. -/
def ofAddition {α : Type} (addition : ConstantPool.Addition α) : Weaving α :=
  ofEdit (ClassEdit.onPool addition)

/-- A change of the constant pool as a step of a weaving. -/
def onPool {α : Type} (change : PoolWeaving α) : Weaving α := fun c =>
  let (r, pool) := change.run c.pool
  (r, { c with pool })

/-- Refuses the class. -/
def reject {α : Type} (reason : String) : Weaving α :=
  throw (.rejected reason)

end Weaving

/-- An addition to a constant pool on behalf of a weaving. -/
def PoolWeaving.ofAddition {α : Type} (addition : ConstantPool.Addition α) : PoolWeaving α := fun p =>
  let (r, p) := addition.run p
  (r.mapError .classData, p)

end ClassWeaver
