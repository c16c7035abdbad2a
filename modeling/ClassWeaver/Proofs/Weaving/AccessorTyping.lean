import ClassWeaver.Proofs.ClassFile.PoolGrowth
import ClassWeaver.Proofs.Identity.Spelling
import ClassWeaver.Proofs.Weaving.AccessorBodies
import ClassWeaver.Proofs.Weaving.StackMachine

/-!
# Accessors are well typed

The checks that a target passes line the accessor up with the member: what the accessor is called with is what the member
takes, and what the member gives is what the accessor returns. So the body of the accessor, run on the arguments of the
accessor, is never stuck: each argument is loaded once, in order and by a load of its kind, the member finds these
values and no others, and its result is returned. The limits that the body declares are those that the run needs.

## Contents

* `Target.Accepted`, `Target.takes`, `Target.gives` — targets that passed their check, and what their member does.
* `effect?_memberUse` — the reference in the pool is one to the member.
* `map_load?_loads` — the loads of arguments.
* `Target.Runs`, `runs_accessorBody` — the run of an accessor's body.
-/

namespace ClassWeaver

open Identity

variable {p q : ConstantPool} {index : UInt16}

/-! ## Numbers of slots -/

namespace Identity.MethodDescriptor

/-- Local variables that a call of the method takes, the receiver included. -/
def frameSlots (m : MethodDescriptor) : Nat :=
  (if m.isStatic then 0 else 1) + (m.arguments.map TypeDescriptor.slots).sum

variable {m : MethodDescriptor}

theorem toNat_argumentSlots (h : (m.arguments.map TypeDescriptor.slots).sum < 65536) :
    m.argumentSlots.toNat = (m.arguments.map TypeDescriptor.slots).sum := by
  rw [argumentSlots, ← List.sum_eq_foldr, Bytes.toNat_ofNat16 h]

theorem toNat_localsOf (h : m.frameSlots ≤ 255) : (localsOf m).toNat = m.frameSlots := by
  have hfirst : (firstArgument m).toNat = if m.isStatic then 0 else 1 := by
    rw [firstArgument]
    split <;> rfl
  rw [frameSlots] at h
  rw [localsOf, UInt16.toNat_add, hfirst, toNat_argumentSlots (by omega), Nat.mod_eq_of_lt (by omega), frameSlots]

end Identity.MethodDescriptor

theorem toNat_slotCount (d : TypeDescriptor) : (slotCount d).toNat = d.slots := by
  have hslots : d.slots < 65536 := by
    rw [TypeDescriptor.slots]
    cases d.primitive? with
    | none => decide
    | some p => cases p <;> decide
  exact Bytes.toNat_ofNat16 hslots

theorem toNat_max (a b : UInt16) : (max a b).toNat = max a.toNat b.toNat := by
  rw [show max a b = if a ≤ b then b else a from rfl]
  split
  · rename_i h
    exact (Nat.max_eq_right (UInt16.le_iff_toNat_le.mp h)).symm
  · rename_i h
    rw [UInt16.le_iff_toNat_le] at h
    omega

/-! ## Loads of arguments -/

theorem length_flatMap_ofArgument {types : List TypeDescriptor} (hvoid : ∀ type ∈ types, type.isVoid = false)
    (number : Nat) : ((types.zipIdx number).flatMap fun (type, n) => LocalSlot.ofArgument n type).length =
      (types.map TypeDescriptor.slots).sum := by
  induction types generalizing number with
  | nil => rfl
  | cons type types ih =>
    obtain ⟨hfirst, hrest⟩ := List.forall_mem_cons.mp hvoid
    rw [List.zipIdx_cons, List.flatMap_cons, List.length_append, LocalSlot.length_ofArgument hfirst, ih hrest]
    rfl

/-- **The loads of arguments load the arguments**, the first of them from behind the variables in front. -/
theorem map_load?_loads {a : Activation} {types : List TypeDescriptor} {front : List LocalSlot} {slot : UInt16}
    {number : Nat} (hvoid : ∀ type ∈ types, type.isVoid = false)
    (hlocals : a.locals = front ++ (types.zipIdx number).flatMap fun (type, n) => LocalSlot.ofArgument n type)
    (hslot : slot.toNat = front.length) (hlength : a.locals.length < 65536) :
    (MethodTarget.loads slot types).map a.load? =
      ((types.zipIdx number).map fun (type, n) => Operand.argument n type).map some := by
  -- the variables in front are those of the arguments that are loaded already, and as many as the slot counts
  induction types generalizing front slot number with
  | nil => rfl
  | cons type types ih =>
    obtain ⟨hfirst, hrest⟩ := List.forall_mem_cons.mp hvoid
    have hslots := LocalSlot.length_ofArgument hfirst number
    rw [List.zipIdx_cons, List.flatMap_cons] at hlocals
    dsimp only at hlocals
    have hhead : LocalSlot.ofArgument number type <+: a.locals.drop slot.toNat := by
      rw [hlocals, hslot, List.drop_left]
      exact List.prefix_append _ _
    have hnext : (slot + slotCount type).toNat = (front ++ LocalSlot.ofArgument number type).length := by
      rw [hlocals, List.length_append, List.length_append] at hlength
      rw [UInt16.toNat_add, toNat_slotCount, List.length_append, hslots, hslot, Nat.mod_eq_of_lt (by omega)]
    have htail := ih hrest (hlocals.trans (List.append_assoc _ _ _).symm) hnext
    rw [MethodTarget.loads, List.map_cons, Activation.load?_loadOf hfirst hhead, htail]
    rfl

namespace Identity.MethodDescriptor

theorem length_entryLocals (m : MethodDescriptor) : m.entryLocals.length = m.frameSlots := by
  rw [entryLocals, List.length_append, length_flatMap_ofArgument fun _ => isVoid_of_mem_arguments, frameSlots]
  split <;> rfl

/-- In a method of the given arguments, their loads load them. -/
theorem map_load?_entry {m : MethodDescriptor} (h : m.frameSlots ≤ 255) {a : Activation}
    (hlocals : a.locals = m.entryLocals) :
    (MethodTarget.loads (firstArgument m) m.arguments).map a.load? = m.operands.map some := by
  have hlength : a.locals.length < 65536 := by
    rw [hlocals, length_entryLocals]
    omega
  refine map_load?_loads (fun _ => isVoid_of_mem_arguments) hlocals ?_ hlength
  rw [firstArgument]
  split <;> rfl

theorem map_type_operands (m : MethodDescriptor) : m.operands.map Operand.type = m.arguments := by
  rw [operands, List.map_map]
  exact List.zipIdx_map_fst 0 m.arguments

end Identity.MethodDescriptor

/-! ## Targets that passed their check -/

section Checks

variable {owner accessorOwner : TypeDescriptor} {accessor : MethodDescriptor}

/-- A field's accessor takes the owner, unless the field is static, and returns what the field has. -/
theorem FieldTarget.mk?_eq_ok {field : FieldDescriptor} {t : FieldTarget} :
    mk? owner field accessorOwner accessor = .ok t ↔
      accessor.returnType = field.type ∧ accessor.arguments = (if field.isStatic then [] else [owner]) ∧
        ⟨owner, field, accessorOwner, accessor⟩ = t := by
  rw [mk?]
  split
  · rename_i hreturn
    exact iff_of_false nofun fun h => hreturn h.1
  · rename_i hreturn
    split
    · rw [← List.isEmpty_iff]
      split
      · rename_i hempty
        exact ⟨fun h => ⟨Decidable.not_not.mp hreturn, hempty, Except.ok.inj h⟩, fun h => congrArg _ h.2.2⟩
      · rename_i hempty
        exact iff_of_false nofun fun h => hempty h.2.1
    · split
      · rename_i harguments
        exact ⟨fun h => ⟨Decidable.not_not.mp hreturn, harguments, Except.ok.inj h⟩, fun h => congrArg _ h.2.2⟩
      · rename_i harguments
        exact iff_of_false nofun fun h => harguments h.2.1

theorem MethodTarget.forwarded?_eq_some {method : MethodDescriptor} {forwarded : List TypeDescriptor} :
    forwarded? owner method accessor = some forwarded ↔
      accessor.arguments = if method.isStatic then forwarded else owner :: forwarded := by
  rw [forwarded?]
  split
  · exact Option.some_inj
  · split
    · rename_i receiver rest harguments
      rw [harguments, List.cons.injEq]
      split
      · rename_i hreceiver
        rw [Option.some_inj, and_iff_right hreceiver]
      · rename_i hreceiver
        exact iff_of_false nofun fun h => hreceiver h.1
    · rename_i harguments
      rw [harguments]
      exact iff_of_false nofun nofun

/-- A method's accessor takes the owner, unless the method is static, and what the method takes, returns what the method
returns, and is not the method. -/
theorem MethodTarget.mk?_eq_ok {method : MethodDescriptor} {t : MethodTarget} :
    mk? owner method accessorOwner accessor = .ok t ↔
      accessor.returnType = method.returnType ∧
        accessor.arguments = (if method.isStatic then method.arguments else owner :: method.arguments) ∧
          ¬(owner = accessorOwner ∧ method.name = accessor.name ∧ method.descriptor = accessor.descriptor) ∧
            ⟨owner, method, accessorOwner, accessor, false⟩ = t := by
  rw [mk?]
  split
  · rename_i hreturn
    exact iff_of_false nofun fun h => hreturn h.1
  · rename_i hreturn
    have hreturn := Decidable.not_not.mp hreturn
    rw [← forwarded?_eq_some]
    split
    · rename_i hnone
      rw [hnone]
      exact iff_of_false nofun nofun
    · rename_i forwarded hforwarded
      rw [hforwarded]
      split
      · rename_i hdiffer
        exact iff_of_false nofun fun h => hdiffer (Option.some.inj h.2.1)
      · rename_i hsame
        have hsame := congrArg some (Decidable.not_not.mp hsame)
        split
        · rename_i hself
          exact iff_of_false nofun fun h => h.2.2.1 hself
        · rename_i hself
          exact ⟨fun h => ⟨hreturn, hsame, hself, Except.ok.inj h⟩, fun h => congrArg _ h.2.2.2⟩

end Checks

namespace Target

variable {t : Target}

/-- The target is what its check gives; that the owner is an interface is said afterwards. -/
def Accepted : Target → Prop
  | field t => FieldTarget.mk? t.owner t.field t.accessorOwner t.accessor = .ok t
  | method t => MethodTarget.mk? t.owner t.method t.accessorOwner t.accessor = .ok { t with ofInterface := false }

instance : ∀ t : Target, Decidable t.Accepted
  | field t => inferInstanceAs (Decidable (FieldTarget.mk? t.owner t.field t.accessorOwner t.accessor = .ok t))
  | method t => inferInstanceAs (Decidable (MethodTarget.mk? t.owner t.method t.accessorOwner t.accessor = .ok _))

/-- What the member takes: the owner, unless it is static, and its arguments. -/
def takes : Target → List TypeDescriptor
  | field t => if t.field.isStatic then [] else [t.owner]
  | method t => if t.method.isStatic then t.method.arguments else t.owner :: t.method.arguments

/-- The type of what the member gives. -/
def gives : Target → TypeDescriptor
  | field t => t.field.type
  | method t => t.method.returnType

/-- **The accessor lines up with the member.** -/
theorem accessor_of_accepted (h : t.Accepted) :
    t.accessor.arguments = t.takes ∧ t.accessor.returnType = t.gives := by
  cases t with
  | field t =>
    obtain ⟨hreturn, harguments, -⟩ := FieldTarget.mk?_eq_ok.mp h
    exact ⟨harguments, hreturn⟩
  | method t =>
    obtain ⟨hreturn, harguments, -⟩ := MethodTarget.mk?_eq_ok.mp h
    exact ⟨harguments, hreturn⟩

end Target

/-! ## The member's instruction -/

namespace ConstantPool

variable {owner : TypeDescriptor}

/-- The texts of a reference to a field are read as the field's owner and type. -/
theorem fieldAt?_of_memberRef {name : String} {type : TypeDescriptor}
    (h : p.memberRef index = .ok ⟨owner.internalName, name, type.descriptor⟩) :
    p.fieldAt? index = some (owner, type) := by
  rw [fieldAt?, h]
  show ((TypeDescriptor.ofInternalName owner.internalName).toOption.bind fun owner =>
    (TypeDescriptor.ofDescriptor type.descriptor).toOption.bind fun type => some (owner, type)) = _
  rw [TypeDescriptor.ofInternalName_internalName, TypeDescriptor.ofDescriptor_descriptor]
  rfl

/-- The texts of a reference to a method are read as the method and its owner. -/
theorem methodAt?_of_memberRef {m : MethodDescriptor}
    (h : p.memberRef index = .ok ⟨owner.internalName, m.name, m.descriptor⟩) :
    p.methodAt? index m.isStatic = some (owner, m) := by
  rw [methodAt?, h]
  show ((TypeDescriptor.ofInternalName owner.internalName).toOption.bind fun owner =>
    (MethodDescriptor.parse m.name m.descriptor m.isStatic).toOption.bind fun method => some (owner, method)) = _
  rw [TypeDescriptor.ofInternalName_internalName, MethodDescriptor.parse_descriptor]
  rfl

end ConstantPool

namespace Target

variable {t : Target}

/-- The instruction that uses the member that an index refers to. -/
def memberUse : Target → UInt16 → Instruction Label
  | field t, index => .field (if t.field.isStatic then Opcode.getStatic else Opcode.getField) index
  | method t, index => t.call index

/-- The slots that the member takes are the arguments of the accessor. -/
theorem sum_slots_takes_lt (h : t.Accepted) (hframe : t.accessor.frameSlots ≤ 255) :
    (t.takes.map TypeDescriptor.slots).sum < 256 := by
  rw [MethodDescriptor.frameSlots, (accessor_of_accepted h).1] at hframe
  omega

theorem primitive?_of_isPrimitive {d : TypeDescriptor} (h : d.isPrimitive = false) : d.primitive? = none := by
  rw [TypeDescriptor.isPrimitive] at h
  exact Option.not_isSome_iff_eq_none.mp (by rw [h]; exact Bool.false_ne_true)

theorem slots_of_isPrimitive {d : TypeDescriptor} (h : d.isPrimitive = false) : d.slots = 1 := by
  rw [TypeDescriptor.slots, primitive?_of_isPrimitive h]
  rfl

theorem effect?_field {t : FieldTarget} (hp : p.count ≤ 65536) (h : (field t).memberRef p = (.ok index, q)) :
    q.effect? ((field t).memberUse index) = some ⟨(field t).takes, (field t).gives⟩ := by
  obtain ⟨⟨o, m, hget⟩, href⟩ := ConstantPool.reference_of_addFieldRef hp h
  rw [memberUse, ConstantPool.effect?, hget]
  dsimp only
  rw [ConstantPool.fieldAt?_of_memberRef href, Option.bind_some, takes, gives]
  cases t.field.isStatic with
  | true => rfl
  | false => rfl

theorem toNat_callCount {m : MethodDescriptor} (h : 1 + (m.arguments.map TypeDescriptor.slots).sum < 256) :
    (1 + m.argumentSlots).toUInt8.toNat = 1 + (m.arguments.map TypeDescriptor.slots).sum := by
  rw [UInt16.toNat_toUInt8, UInt16.toNat_add, MethodDescriptor.toNat_argumentSlots (by omega)]
  show (1 + _) % 65536 % 256 = _
  omega

theorem effect?_method {t : MethodTarget} (howner : t.owner.isPrimitive = false)
    (hslots : ((method t).takes.map TypeDescriptor.slots).sum < 256) (hp : p.count ≤ 65536)
    (h : (method t).memberRef p = (.ok index, q)) :
    q.effect? ((method t).memberUse index) = some ⟨(method t).takes, (method t).gives⟩ := by
  obtain ⟨⟨o, m, hget⟩, href⟩ := ConstantPool.reference_of_addMethodRef hp h
  have hcall : q.callEffect? index t.method.isStatic = some ⟨(method t).takes, (method t).gives⟩ := by
    rw [ConstantPool.callEffect?, ConstantPool.methodAt?_of_memberRef href]
    rfl
  rw [memberUse, MethodTarget.call]
  cases hstatic : t.method.isStatic with
  | true =>
    rw [hstatic] at hcall
    rw [if_pos rfl, ConstantPool.effect?, hget]
    cases t.ofInterface with
    | true => exact (if_pos rfl).trans hcall
    | false => exact (if_pos rfl).trans hcall
  | false =>
    rw [hstatic] at hcall
    rw [if_neg Bool.false_ne_true]
    cases hinterface : t.ofInterface with
    | true =>
      have htakes : (method t).takes = t.owner :: t.method.arguments := by
        rw [takes, hstatic]
        rfl
      have hcount : (1 + t.method.argumentSlots).toUInt8.toNat = ((method t).takes.map TypeDescriptor.slots).sum := by
        rw [htakes, List.map_cons, List.sum_cons, slots_of_isPrimitive howner] at hslots ⊢
        exact toNat_callCount hslots
      rw [hinterface] at hget
      rw [if_pos rfl, ConstantPool.effect?, hget]
      simp only [if_true]
      rw [hcall, Option.filter_some, if_pos (decide_eq_true hcount)]
    | false =>
      rw [hinterface] at hget
      rw [if_neg Bool.false_ne_true, ConstantPool.effect?, hget]
      exact (if_neg (by decide)).trans ((if_pos rfl).trans hcall)

/-- An `invokeinterface` counts the receiver and the arguments. -/
theorem count_of_memberUse {t : MethodTarget} (howner : t.owner.isPrimitive = false)
    (hslots : ((method t).takes.map TypeDescriptor.slots).sum < 256) {use : UInt16} {count : UInt8}
    (h : (method t).memberUse index = .invokeInterface use count) :
    count.toNat = 1 + (t.method.arguments.map TypeDescriptor.slots).sum := by
  rw [memberUse, MethodTarget.call] at h
  split at h
  · cases h
  · rename_i hstatic
    split at h
    · cases h
      rw [takes, if_neg hstatic, List.map_cons, List.sum_cons, slots_of_isPrimitive howner] at hslots
      exact toNat_callCount hslots
    · cases h

/-- **The instruction takes what the member takes and gives what it gives**, as its constant says. -/
theorem effect?_memberUse (howner : t.owner.isPrimitive = false)
    (hslots : (t.takes.map TypeDescriptor.slots).sum < 256) (hp : p.count ≤ 65536)
    (h : t.memberRef p = (.ok index, q)) : q.effect? (t.memberUse index) = some ⟨t.takes, t.gives⟩ := by
  cases t with
  | field t => exact effect?_field hp h
  | method t => exact effect?_method howner hslots hp h

/-! ## The body -/

/-- The body of an accessor loads the arguments, uses the member and returns. -/
theorem bodyAround_eq (h : t.Accepted) (howner : t.owner.isPrimitive = false) (hframe : t.accessor.frameSlots ≤ 255)
    (index : UInt16) : ∃ maxStack, t.bodyAround index = plainBody maxStack (localsOf t.accessor)
        (MethodTarget.loads (firstArgument t.accessor) t.accessor.arguments ++
          [t.memberUse index, .returnOf t.accessor.returnType]) ∧
      maxStack.toNat = max (t.accessor.arguments.map TypeDescriptor.slots).sum t.accessor.returnType.slots := by
  obtain ⟨harguments, hreturn⟩ := accessor_of_accepted h
  have hsum : (t.accessor.arguments.map TypeDescriptor.slots).sum < 65536 := by
    rw [MethodDescriptor.frameSlots] at hframe
    omega
  rw [hreturn]
  cases t with
  | method t =>
    refine ⟨_, rfl, ?_⟩
    rw [toNat_max, toNat_slotCount]
    exact congrArg (max · _) (MethodDescriptor.toNat_argumentSlots hsum)
  | field t =>
    have howner : t.owner.isPrimitive = false := howner
    rw [harguments, takes, gives, bodyAround, FieldTarget.reading, memberUse]
    cases t.field.isStatic with
    | true =>
      refine ⟨_, rfl, ?_⟩
      rw [toNat_slotCount]
      exact (Nat.zero_max _).symm
    | false =>
      -- the one argument is the owner, which is no primitive
      have hload : ∀ slot, (Instruction.loadOf t.owner slot : Instruction Label) = .localVar Opcode.aload slot := by
        intro slot
        rw [Instruction.loadOf, primitive?_of_isPrimitive howner]
      refine ⟨max (slotCount t.field.type) 1, ?_, ?_⟩
      · show _ = plainBody _ _ (Instruction.loadOf t.owner (firstArgument t.accessor) :: _)
        rw [hload]
        rfl
      · rw [toNat_max, toNat_slotCount, Nat.max_comm]
        show max 1 _ = max (t.owner.slots + 0) _
        rw [slots_of_isPrimitive howner]

/-! ## The run -/

/-- The accessor when it is entered. -/
def entry (t : Target) (pool : ConstantPool) : Activation :=
  ⟨pool, t.accessor.entryLocals, t.accessor.returnType⟩

/-- How the body of an accessor runs: loads, then the member with `before` on the stack, then a return with `after`. -/
structure Runs (t : Target) (pool : ConstantPool) (body : MethodBody) (loads : List (Instruction Label))
    (member last : Instruction Label) (before after : List Operand) : Prop where
  instructions : body.instructions = loads ++ [member, last]
  /-- As many local variables are declared as the accessor is entered with. -/
  maxLocals : body.maxLocals.toNat = (t.entry pool).locals.length
  /-- A load takes an argument from the slot where the argument begins, and is the load for its kind. -/
  reads : ∀ i ∈ loads, ∃ op slot number type, i = .localVar op slot ∧
    (t.entry pool).locals[slot.toNat]? = some (.first number type) ∧
      slot.toNat < body.maxLocals.toNat ∧ slot.toNat + type.slots ≤ body.maxLocals.toNat ∧
        ∃ kind, ValueKind.ofLoad? op = some kind ∧ type.kind? = some kind
  run_loads : (t.entry pool).run [] loads = some before
  /-- The arguments of the accessor are on the stack, each once and in order. -/
  operands : before.reverse = t.accessor.operands
  /-- They are what the member takes. -/
  types : (before.map Operand.type).reverse = t.takes
  effect : pool.effect? member = some ⟨t.takes, t.gives⟩
  count : ∀ index count, member = .invokeInterface index count → ∀ m, t = .method m →
    count.toNat = 1 + (m.method.arguments.map TypeDescriptor.slots).sum
  step_member : (t.entry pool).step before member = some after
  results : after.map Operand.type = t.gives.values
  returns : ∃ op, last = .simple op ∧ ValueKind.ofReturn? op = some t.gives.kind?
  step_last : (t.entry pool).step after last = some []
  maxStack : (t.entry pool).GreatestDepth body.instructions body.maxStack.toNat

/-- **Accessors are well typed, and their limits are exact.** That an accessor takes no more than 255 local variables is
what the format asks of methods, and every pool that was read has no more slots than a reference can number. -/
theorem runs_accessorBody {body : MethodBody} (haccepted : t.Accepted) (howner : t.owner.isPrimitive = false)
    (hframe : t.accessor.frameSlots ≤ 255) (hp : p.count ≤ 65536) (h : t.accessorBody p = (.ok body, q)) :
    ∃ loads member last before after, t.Runs q body loads member last before after := by
  obtain ⟨index, href, rfl⟩ := accessorBody_eq_ok.mp h
  obtain ⟨maxStack, hbody, hmaxStack⟩ := bodyAround_eq haccepted howner hframe index
  obtain ⟨harguments, hreturn⟩ := accessor_of_accepted haccepted
  have hslots := sum_slots_takes_lt haccepted hframe
  have heffect := effect?_memberUse howner hslots hp href
  have hloads := MethodDescriptor.map_load?_entry (a := t.entry q) hframe rfl
  have hlocals : (t.entry q).locals.length = (localsOf t.accessor).toNat := by
    rw [MethodDescriptor.toNat_localsOf hframe]
    exact t.accessor.length_entryLocals
  have htypes : t.accessor.operands.reverse.map Operand.type = t.takes.reverse := by
    rw [List.map_reverse, MethodDescriptor.map_type_operands, harguments]
  have hresults : (t.gives.values.map Operand.result).map Operand.type = t.gives.values := map_type_results _
  have hmember : (t.entry q).step t.accessor.operands.reverse (t.memberUse index) =
      some (t.gives.values.map .result) := Activation.step_of_effect (a := t.entry q) heffect htypes
  have hlast : (t.entry q).step (t.gives.values.map .result) (.returnOf t.accessor.returnType) = some [] :=
    Activation.step_returnOf (a := t.entry q) (hresults.trans (congrArg _ hreturn.symm))
  have hdepth : maxStack.toNat = max (depth t.accessor.operands) (depth (t.gives.values.map .result)) := by
    rw [hmaxStack, depth_eq, depth_eq, MethodDescriptor.map_type_operands, hresults, TypeDescriptor.sum_slots_values,
      hreturn]
  rw [hbody]
  refine ⟨MethodTarget.loads (firstArgument t.accessor) t.accessor.arguments, t.memberUse index,
    .returnOf t.accessor.returnType, t.accessor.operands.reverse, t.gives.values.map .result, ?_⟩
  exact {
    instructions := rfl
    maxLocals := hlocals.symm
    reads := by
      intro i hi
      obtain ⟨o, -, ho⟩ := List.mem_map.mp (hloads ▸ List.mem_map_of_mem hi)
      obtain ⟨op, slot, number, type, heq, hlocal, hle, hkind⟩ := Activation.eq_localVar_of_load? ho.symm
      have hlt := (List.getElem?_eq_some_iff.mp hlocal).1
      exact ⟨op, slot, number, type, heq, hlocal, hlocals ▸ hlt, hlocals ▸ hle, hkind⟩
    run_loads := Activation.run_nil_of_load? hloads
    operands := List.reverse_reverse _
    types := by rw [htypes, List.reverse_reverse]
    effect := heffect
    count := by
      rintro use count hcount m rfl
      exact count_of_memberUse howner hslots hcount
    step_member := hmember
    results := hresults
    returns := hreturn ▸ Activation.returnOf_eq _
    step_last := hlast
    maxStack := hdepth ▸ Activation.greatestDepth hloads hmember hlast }

end Target

/-! ### An accessor of an interface's method -/

/-- A method of the interface `N` with arguments of one and of two slots, and the static method that calls it. -/
def scale : MethodTarget where
  owner := ⟨.object ⟨"N", by decide, by decide⟩, 0, TypeDescriptor.scalar_dimensions_lt, nofun⟩
  method := ⟨"scale", [.ofPrimitive .long, .ofPrimitive .short], .ofPrimitive .double, false, by decide, by decide⟩
  accessorOwner := ⟨.object ⟨"K", by decide, by decide⟩, 0, TypeDescriptor.scalar_dimensions_lt, nofun⟩
  accessor := ⟨"scale", [⟨.object ⟨"N", by decide, by decide⟩, 0, TypeDescriptor.scalar_dimensions_lt, nofun⟩,
    .ofPrimitive .long, .ofPrimitive .short], .ofPrimitive .double, true, by decide, by decide⟩
  ofInterface := true

/-- The first constants of the accessor's body. -/
def scaleConstants (n : Nat) : ConstantPool :=
  ⟨([.unusable, .utf8 (.ofText "N"), .classRef 1, .utf8 (.ofText "scale"), .utf8 (.ofText "(JS)D"), .nameAndType 3 4,
    .interfaceMethodRef 2 5].take n).toArray⟩

/-- The accessor's body. -/
def scaleBody : MethodBody :=
  plainBody 4 4 [.localVar Opcode.aload 0, .localVar Opcode.lload 1, .localVar Opcode.iload 3, .invokeInterface 6 4,
    .simple Opcode.dreturn]

open ConstantPool (add_eq) in
open ConstantPool.Addition (bind_eq_ok) in
theorem accessorBody_scale : (Target.method scale).accessorBody .empty = (.ok scaleBody, scaleConstants 7) := by
  have hclass : ConstantPool.addClass scale.owner.internalName .empty = (.ok 2, scaleConstants 3) :=
    bind_eq_ok.mpr ⟨1, scaleConstants 2, (add_eq _ _).trans rfl, (add_eq _ _).trans rfl⟩
  have hmember : ConstantPool.addNameAndType scale.method.name scale.method.descriptor (scaleConstants 3) =
      (.ok 5, scaleConstants 6) :=
    bind_eq_ok.mpr ⟨3, scaleConstants 4, (add_eq _ _).trans rfl, bind_eq_ok.mpr ⟨4, scaleConstants 5,
      (add_eq _ _).trans rfl, (add_eq _ _).trans rfl⟩⟩
  exact Target.accessorBody_eq_ok.mpr ⟨6, bind_eq_ok.mpr ⟨2, _, hclass, bind_eq_ok.mpr ⟨5, _, hmember,
    (add_eq _ _).trans rfl⟩⟩, rfl⟩

/-- What `runs_accessorBody` says of that body, which loads one value of two slots between two of one. -/
theorem runs_accessorBody_scale :
    (Target.method scale).Accepted ∧ scale.accessor.frameSlots = 4 ∧
      (Target.method scale).accessorBody .empty = (.ok scaleBody, scaleConstants 7) ∧
        ∃ loads member last before after,
          (Target.method scale).Runs (scaleConstants 7) scaleBody loads member last before after :=
  ⟨rfl, by decide, accessorBody_scale, Target.runs_accessorBody rfl rfl (by decide) (by decide) accessorBody_scale⟩

end ClassWeaver
