import ClassWeaver.Proofs.ClassFile.WithinLimits
import ClassWeaver.Proofs.Code.PlainBodies

/-!
# Bodies of accessors

The body of an accessor is a list of instructions that refers to no place, built around one reference to the member. To
build it is to add the reference, and what is written of it is read back by any pool.

## Contents

* `FieldTarget.reading`, `MethodTarget.forwarding` — the bodies around a reference.
* `Target.memberRef`, `Target.bodyAround`, `accessorBody_eq` — building a body.
* `Target.Countable`, `Target.decode_of_encode` — reading it back.
* `Target.payload`, `Target.Complete` — what is written of it over a pool that has all its constants.
-/

namespace ClassWeaver

open ConstantPool (Addition)
open ConstantPool.Addition

variable {p q r : ConstantPool}

/-! ## Instructions in a row -/

/-- An instruction that is written without loss and refers to no place. -/
structure Instruction.Straight (i : Instruction Label) : Prop where
  shaped : i.Shaped
  positions : i.positions = []

open Identity (TypeDescriptor)

theorem Instruction.straight_loadOf (type : TypeDescriptor) (index : UInt16) : (loadOf type index).Straight := by
  rw [loadOf]
  split <;> exact ⟨rfl, rfl⟩

theorem Instruction.straight_returnOf (type : TypeDescriptor) : (returnOf type).Straight := by
  rw [returnOf]
  split <;> exact ⟨rfl, rfl⟩

/-! ## Around a reference -/

namespace FieldTarget

/-- The body that reads the field that an index refers to. -/
def reading (t : FieldTarget) (field : UInt16) : MethodBody :=
  if t.field.isStatic then
    plainBody (slotCount t.field.type) (localsOf t.accessor) [.field Opcode.getStatic field, .returnOf t.field.type]
  else
    plainBody (max (slotCount t.field.type) 1) (localsOf t.accessor)
      [.localVar Opcode.aload (firstArgument t.accessor), .field Opcode.getField field, .returnOf t.field.type]

theorem accessorBody_eq (t : FieldTarget) : t.accessorBody =
    ConstantPool.addFieldRef t.owner.internalName t.field.name t.field.descriptor >>= fun field =>
      pure (t.reading field) := by
  rw [accessorBody]
  refine congrArg _ (funext fun field => ?_)
  rw [reading]
  split
  · rfl
  · rfl

theorem reading_eq_plain (t : FieldTarget) (field : UInt16) : ∃ maxStack maxLocals is,
    t.reading field = plainBody maxStack maxLocals is ∧ (∀ i ∈ is, i.Straight) ∧ is.length ≤ 3 := by
  have hreturn := List.forall_mem_singleton.mpr (Instruction.straight_returnOf t.field.type)
  rw [reading]
  split
  · exact ⟨_, _, _, rfl, List.forall_mem_cons.mpr ⟨⟨rfl, rfl⟩, hreturn⟩, Nat.le_succ 2⟩
  · exact ⟨_, _, _, rfl, List.forall_mem_cons.mpr ⟨⟨rfl, rfl⟩, List.forall_mem_cons.mpr ⟨⟨rfl, rfl⟩, hreturn⟩⟩,
      Nat.le_refl 3⟩

end FieldTarget

namespace MethodTarget

/-- The body that calls the method that an index refers to. -/
def forwarding (t : MethodTarget) (method : UInt16) : MethodBody :=
  plainBody (max t.accessor.argumentSlots (slotCount t.method.returnType)) (localsOf t.accessor)
    (loads (firstArgument t.accessor) t.accessor.arguments ++ [t.call method, .returnOf t.method.returnType])

theorem accessorBody_eq (t : MethodTarget) : t.accessorBody =
    ConstantPool.addMethodRef t.owner.internalName t.method.name t.method.descriptor t.ofInterface >>= fun method =>
      pure (t.forwarding method) :=
  rfl

theorem straight_loads (slot : UInt16) (types : List TypeDescriptor) : ∀ i ∈ loads slot types, i.Straight := by
  induction types generalizing slot with
  | nil => nofun
  | cons type types ih => exact List.forall_mem_cons.mpr ⟨Instruction.straight_loadOf type slot, ih _⟩

theorem length_loads (slot : UInt16) (types : List TypeDescriptor) : (loads slot types).length = types.length := by
  induction types generalizing slot with
  | nil => rfl
  | cons type types ih => rw [loads, List.length_cons, List.length_cons, ih]

theorem straight_call (t : MethodTarget) (method : UInt16) : (t.call method).Straight := by
  rw [call]
  split
  · exact ⟨rfl, rfl⟩
  · split
    · exact ⟨trivial, rfl⟩
    · exact ⟨rfl, rfl⟩

theorem forwarding_eq_plain (t : MethodTarget) (method : UInt16) : ∃ maxStack maxLocals is,
    t.forwarding method = plainBody maxStack maxLocals is ∧ (∀ i ∈ is, i.Straight) ∧
      is.length = t.accessor.arguments.length + 2 := by
  have hreturn := List.forall_mem_singleton.mpr (Instruction.straight_returnOf t.method.returnType)
  have hend := List.forall_mem_cons.mpr ⟨straight_call t method, hreturn⟩
  refine ⟨_, _, _, rfl, List.forall_mem_append.mpr ⟨straight_loads _ _, hend⟩, ?_⟩
  rw [List.length_append, length_loads]
  rfl

end MethodTarget

/-! ## Building, writing and reading back -/

namespace Target

variable {t : Target} {body : MethodBody} {info : List UInt8}

/-- The body of the accessor. -/
def accessorBody : Target → Addition MethodBody
  | field t => t.accessorBody
  | method t => t.accessorBody

/-- The reference to the member. -/
def memberRef : Target → Addition UInt16
  | field t => ConstantPool.addFieldRef t.owner.internalName t.field.name t.field.descriptor
  | method t => ConstantPool.addMethodRef t.owner.internalName t.method.name t.method.descriptor t.ofInterface

/-- The body around a reference to the member. -/
def bodyAround : Target → UInt16 → MethodBody
  | field t => t.reading
  | method t => t.forwarding

/-- **To build a body is to add a reference.** -/
theorem accessorBody_eq_ok :
    t.accessorBody p = (.ok body, q) ↔ ∃ index, t.memberRef p = (.ok index, q) ∧ t.bodyAround index = body := by
  have heq : t.accessorBody = t.memberRef >>= fun index => pure (t.bodyAround index) := by
    cases t with
    | field t => exact t.accessorBody_eq
    | method t => exact t.accessorBody_eq
  rw [heq, ConstantPool.Addition.bind_eq_ok]
  refine exists_congr fun index => ?_
  constructor
  · rintro ⟨q', hindex, hbody⟩
    obtain ⟨rfl, rfl⟩ := ConstantPool.Addition.pure_eq_ok.mp hbody
    exact ⟨hindex, rfl⟩
  · rintro ⟨hindex, rfl⟩
    exact ⟨q, hindex, rfl⟩

theorem stable_accessorBody (t : Target) : Stable t.accessorBody := by
  cases t with
  | field t =>
    rw [accessorBody, t.accessorBody_eq]
    exact (stable_addFieldRef _ _ _).bind fun _ => stable_pure _
  | method t => exact (stable_addMethodRef _ _ _ _).bind fun _ => stable_pure _

/-- The texts that the reference to the member is made of. -/
def memberTexts : Target → List String
  | field t => [t.owner.internalName, t.field.name, t.field.descriptor]
  | method t => [t.owner.internalName, t.method.name, t.method.descriptor]

/-- Texts that can be written leave a pool that can be written. -/
theorem keepsLimits_memberRef (h : ∀ text ∈ t.memberTexts, (ModifiedUtf8.encode text).length ≤ 65535) :
    KeepsLimits t.memberRef := by
  cases t with
  | field t =>
    simp only [memberTexts, List.forall_mem_cons] at h
    exact keepsLimits_addFieldRef h.1 h.2.1 h.2.2.1
  | method t =>
    simp only [memberTexts, List.forall_mem_cons] at h
    exact keepsLimits_addMethodRef h.1 h.2.1 h.2.2.1 _

theorem bodyAround_eq_plain (t : Target) (index : UInt16) : ∃ maxStack maxLocals is,
    t.bodyAround index = plainBody maxStack maxLocals is ∧ (∀ i ∈ is, i.Straight) ∧
      is.length ≤ t.accessor.arguments.length + 3 := by
  cases t with
  | field t =>
    obtain ⟨maxStack, maxLocals, is, heq, hstraight, hlength⟩ := t.reading_eq_plain index
    exact ⟨maxStack, maxLocals, is, heq, hstraight, Nat.le_add_left_of_le hlength⟩
  | method t =>
    obtain ⟨maxStack, maxLocals, is, heq, hstraight, hlength⟩ := t.forwarding_eq_plain index
    exact ⟨maxStack, maxLocals, is, heq, hstraight, hlength ▸ Nat.le_succ _⟩

/-- The length of an accessor's body can be counted in 32 bits. -/
def Countable (t : Target) : Prop :=
  t.accessor.arguments.length < 536870912

instance (t : Target) : Decidable t.Countable :=
  inferInstanceAs (Decidable (_ < _))

theorem Countable.span_lt (h : t.Countable) {maxStack maxLocals : UInt16} {is : List (Instruction Label)}
    (hstraight : ∀ i ∈ is, i.Straight) (hlength : is.length ≤ t.accessor.arguments.length + 3) {l : Layout}
    (hl : (plainBody maxStack maxLocals is).layout = .ok l) : l.span < 4294967296 := by
  have hspan := span_plain_le (fun i hi => (hstraight i hi).positions) hl
  rw [Countable] at h
  omega

/-- Nothing is added to the pool for writing an accessor's body. -/
theorem pool_of_encode (hbody : t.accessorBody p = (.ok body, q)) (h : body.encode q = (.ok info, r)) : r = q := by
  obtain ⟨index, -, rfl⟩ := accessorBody_eq_ok.mp hbody
  obtain ⟨maxStack, maxLocals, is, heq, -⟩ := t.bodyAround_eq_plain index
  rw [heq] at h
  exact congrArg Prod.snd (h.symm.trans (encode_plain h q))

/-- What is written of an accessor's body is little. -/
theorem length_of_encode (ht : t.Countable) (hbody : t.accessorBody p = (.ok body, q))
    (h : body.encode q = (.ok info, r)) : info.length ≤ 65547 := by
  obtain ⟨index, -, rfl⟩ := accessorBody_eq_ok.mp hbody
  obtain ⟨maxStack, maxLocals, is, heq, hstraight, hlength⟩ := t.bodyAround_eq_plain index
  rw [heq] at h
  exact length_encode_plain (fun _ => ht.span_lt hstraight hlength) h

/-! ## Over a pool that has all constants -/

/-- What is written of the accessor's body; over a pool that has its constants, writing does not change the pool. -/
def payload (t : Target) (p : ConstantPool) : List UInt8 :=
  match ((t.accessorBody >>= MethodBody.encode : Addition (List UInt8)) p).1 with
  | .ok info => info
  | .error _ => []

/-- The pool has all that the accessor's body asks for. -/
def Complete (p : ConstantPool) (t : Target) : Prop :=
  ∃ body, t.accessorBody p = (.ok body, p) ∧ body.encode p = (.ok (t.payload p), p)

theorem payload_eq (hbody : t.accessorBody p = (.ok body, p)) (hinfo : body.encode p = (.ok info, p)) :
    t.payload p = info := by
  rw [payload, Edits.bind_of_eq_ok hbody, hinfo]

end Target

end ClassWeaver
