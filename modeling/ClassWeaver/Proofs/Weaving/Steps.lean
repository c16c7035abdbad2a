import ClassWeaver.Proofs.ClassFile.PoolGrowth
import ClassWeaver.Weaving.Failure

/-!
# Steps of weavings

Results, edits, additions and changes of the pool become steps of a weaving with the same outcome; only the failure is wrapped.

## Contents

* `ofResult_eq_ok`, `ofEdit_eq_ok`, `ofAddition_eq_ok`, `onPool_eq_ok` — when such a step succeeds.
-/

namespace ClassWeaver.Weaving

variable {α : Type} {c c' : ClassFile} {x : α}

theorem ofResult_eq_ok {result : Except Defect α} : ofResult result c = (.ok x, c') ↔ result = .ok x ∧ c = c' := by
  rw [ofResult, Prod.mk.injEq, except_mapError_eq_ok]

/-- **An edit as a step** does what the edit does. -/
theorem ofEdit_eq_ok {edit : ClassEdit α} : ofEdit edit c = (.ok x, c') ↔ edit c = (.ok x, c') := by
  show ((edit c).1.mapError _, (edit c).2) = _ ↔ _
  rw [Prod.mk.injEq, except_mapError_eq_ok, Prod.ext_iff]

theorem ofAddition_eq_ok {addition : ConstantPool.Addition α} :
    ofAddition addition c = (.ok x, c') ↔ ∃ pool, addition c.pool = (.ok x, pool) ∧ c' = { c with pool } := by
  rw [ofAddition, ofEdit_eq_ok, ClassEdit.onPool_eq_ok]

/-- **A change of the pool as a step** does to the pool what the change does. -/
theorem onPool_eq_ok {change : PoolWeaving α} :
    onPool change c = (.ok x, c') ↔ ∃ pool, change c.pool = (.ok x, pool) ∧ c' = { c with pool } := by
  show ((change c.pool).1, { c with pool := (change c.pool).2 }) = _ ↔ _
  cases change c.pool with
  | mk result pool =>
    rw [Prod.mk.injEq]
    constructor
    · rintro ⟨hresult, rfl⟩
      exact ⟨pool, congrArg (·, pool) hresult, rfl⟩
    · rintro ⟨later, hresult, rfl⟩
      cases hresult
      exact ⟨rfl, rfl⟩

end ClassWeaver.Weaving
