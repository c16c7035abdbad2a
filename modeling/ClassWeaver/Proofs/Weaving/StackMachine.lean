import Mathlib.Algebra.GroupWithZero.Nat
import ClassWeaver.ClassFile.ConstantPool
import ClassWeaver.Code.Body
import ClassWeaver.Identity.MemberDescriptor

/-!
# An operand stack of types

The instructions that pass values on (loads, accesses of fields, calls and returns) run on a stack that holds no values
but their types and where they come from. A load takes what stands in a local variable, and only if it is a load of that
kind. What a member takes and gives is read from the constant that the instruction refers to. A return ends a run whose
stack holds what the method is to give, and nothing else. Where one of these rules is broken the machine is stuck.

## Contents

* `ValueKind`, `kind?`, `ofLoad?`, `ofReturn?` — what instructions tell apart about values.
* `Operand`, `LocalSlot`, `depth` — values on the stack and in local variables.
* `StackEffect`, `effect?` — what accesses and calls do to the stack.
* `Activation`, `load?`, `step`, `run`, `Reaches`, `GreatestDepth` — the machine.
* `run_of_load?`, `step_of_effect`, `step_returnOf` — a row of loads, an instruction that takes the whole stack, a return.
* `reaches_iff`, `greatestDepth` — the stacks of a run that is made of these, and the deepest of them.
-/

namespace ClassWeaver

open Identity

/-! ## Kinds of values -/

/-- What instructions tell apart about a value. -/
inductive ValueKind
  | int | long | float | double | reference
  deriving DecidableEq, Repr

/-- The kind of the values of a type; of `void` there are none. -/
def Identity.TypeDescriptor.kind? (d : TypeDescriptor) : Option ValueKind :=
  match d.primitive? with
  | none => some .reference
  | some .boolean | some .byte | some .char | some .short | some .int => some .int
  | some .long => some .long
  | some .float => some .float
  | some .double => some .double
  | some .void => none

/-- What a method with the given result leaves on its caller's stack. -/
def Identity.TypeDescriptor.values (d : TypeDescriptor) : List TypeDescriptor :=
  if d.isVoid then [] else [d]

/-- The kind of value that a load takes from a local variable. -/
def ValueKind.ofLoad? (op : UInt8) : Option ValueKind :=
  [(Opcode.iload, int), (Opcode.lload, long), (Opcode.fload, float), (Opcode.dload, double),
    (Opcode.aload, reference)].lookup op

/-- The kind of value that a return gives back, which may be none. -/
def ValueKind.ofReturn? (op : UInt8) : Option (Option ValueKind) :=
  [(Opcode.ireturn, some int), (Opcode.lreturn, some long), (Opcode.freturn, some float),
    (Opcode.dreturn, some double), (Opcode.areturn, some reference), (Opcode.voidReturn, none)].lookup op

/-! ## Values -/

/-- A value on the stack: the argument of some number, or what a member gave. -/
inductive Operand
  | argument (number : Nat) (type : TypeDescriptor)
  | result (type : TypeDescriptor)
  deriving DecidableEq

/-- The type of a value. -/
def Operand.type : Operand → TypeDescriptor
  | argument _ type => type
  | result type => type

/-- A local variable: the receiver, the first slot of an argument, or its second one. -/
inductive LocalSlot
  | receiver
  | first (number : Nat) (type : TypeDescriptor)
  | second
  deriving DecidableEq

/-- The slots of an argument. -/
def LocalSlot.ofArgument (number : Nat) (type : TypeDescriptor) : List LocalSlot :=
  first number type :: List.replicate (type.slots - 1) second

/-- Slots that the values of a stack take. -/
def depth (stack : List Operand) : Nat :=
  (stack.map fun o => o.type.slots).sum

namespace Identity.MethodDescriptor

/-- The arguments as values. -/
def operands (m : MethodDescriptor) : List Operand :=
  m.arguments.zipIdx.map fun (type, number) => .argument number type

/-- The local variables when the method is entered. -/
def entryLocals (m : MethodDescriptor) : List LocalSlot :=
  (if m.isStatic then [] else [.receiver]) ++
    m.arguments.zipIdx.flatMap fun (type, number) => LocalSlot.ofArgument number type

end Identity.MethodDescriptor

/-! ## Numbers of slots -/

namespace Identity.TypeDescriptor

theorem slots_pos {d : TypeDescriptor} (h : d.isVoid = false) : 0 < d.slots := by
  rw [isVoid] at h
  rw [slots]
  cases hp : d.primitive? with
  | none => exact Nat.one_pos
  | some p =>
    rw [hp] at h
    cases p with
    | void => cases h
    | _ => decide

theorem sum_slots_values (d : TypeDescriptor) : (d.values.map slots).sum = d.slots := by
  rw [values]
  split
  · rename_i h
    rw [isVoid, beq_iff_eq] at h
    rw [slots, h]
    rfl
  · exact Nat.add_zero _

theorem isVoid_of_kind? {d : TypeDescriptor} {kind : ValueKind} (h : d.kind? = some kind) : d.isVoid = false := by
  rw [kind?] at h
  rw [isVoid]
  cases hp : d.primitive? with
  | none => rfl
  | some p =>
    rw [hp] at h
    cases p with
    | void => cases h
    | _ => rfl

end Identity.TypeDescriptor

theorem LocalSlot.length_ofArgument {type : TypeDescriptor} (h : type.isVoid = false) (number : Nat) :
    (LocalSlot.ofArgument number type).length = type.slots := by
  have hpos := TypeDescriptor.slots_pos h
  rw [ofArgument, List.length_cons, List.length_replicate]
  omega

theorem depth_eq (stack : List Operand) : depth stack = ((stack.map Operand.type).map TypeDescriptor.slots).sum := by
  rw [List.map_map]
  rfl

theorem depth_append (upper lower : List Operand) : depth (upper ++ lower) = depth upper + depth lower := by
  rw [depth, List.map_append, List.sum_append]
  rfl

theorem depth_reverse (stack : List Operand) : depth stack.reverse = depth stack := by
  rw [depth, List.map_reverse, List.sum_reverse]
  rfl

/-- A part of a stack is not deeper than the stack. -/
theorem depth_take_le (n : Nat) (stack : List Operand) : depth (stack.take n) ≤ depth stack := by
  have hsplit := depth_append (stack.take n) (stack.drop n)
  rw [List.take_append_drop] at hsplit
  omega

theorem map_type_results (types : List TypeDescriptor) : (types.map Operand.result).map Operand.type = types := by
  rw [List.map_map]
  exact List.map_id types

/-! ## Accesses and calls -/

/-- What an instruction takes off the stack, the top at the end, and the result that it puts there. -/
structure StackEffect where
  takes : List TypeDescriptor
  gives : TypeDescriptor
  deriving DecidableEq

/-- The stack afterwards, its top in front. -/
def StackEffect.apply (e : StackEffect) (stack : List Operand) : Option (List Operand) :=
  if (stack.take e.takes.length).map Operand.type = e.takes.reverse then
    some (e.gives.values.map .result ++ stack.drop e.takes.length)
  else none

namespace ConstantPool

/-- The owner and the type of the field that an index refers to. -/
def fieldAt? (p : ConstantPool) (index : UInt16) : Option (TypeDescriptor × TypeDescriptor) := do
  let ref ← (p.memberRef index).toOption
  let owner ← (TypeDescriptor.ofInternalName ref.owner).toOption
  let type ← (TypeDescriptor.ofDescriptor ref.descriptor).toOption
  return (owner, type)

/-- The owner and the method that an index refers to. -/
def methodAt? (p : ConstantPool) (index : UInt16) (isStatic : Bool) : Option (TypeDescriptor × MethodDescriptor) := do
  let ref ← (p.memberRef index).toOption
  let owner ← (TypeDescriptor.ofInternalName ref.owner).toOption
  let method ← (MethodDescriptor.parse ref.name ref.descriptor isStatic).toOption
  return (owner, method)

/-- What the call of a method does to the stack. -/
def callEffect? (p : ConstantPool) (index : UInt16) (isStatic : Bool) : Option StackEffect :=
  (p.methodAt? index isStatic).map fun (owner, method) =>
    ⟨if isStatic then method.arguments else owner :: method.arguments, method.returnType⟩

/-- What an access or a call does to the stack, if it refers to a constant of the right sort. An `invokeinterface`
repeats how many slots it takes. -/
def effect? (p : ConstantPool) : Instruction Label → Option StackEffect
  | .field op index =>
    match p.get? index with
    | some (.fieldRef ..) =>
      (p.fieldAt? index).bind fun (owner, type) =>
        if op = Opcode.getStatic then some ⟨[], type⟩
        else if op = Opcode.getField then some ⟨[owner], type⟩
        else none
    | _ => none
  | .method op index =>
    match p.get? index with
    | some (.methodRef ..) =>
      if op = Opcode.invokeStatic then p.callEffect? index true
      else if op = Opcode.invokeVirtual then p.callEffect? index false
      else none
    | some (.interfaceMethodRef ..) => if op = Opcode.invokeStatic then p.callEffect? index true else none
    | _ => none
  | .invokeInterface index count =>
    match p.get? index with
    | some (.interfaceMethodRef ..) =>
      (p.callEffect? index false).filter fun e => count.toNat = (e.takes.map TypeDescriptor.slots).sum
    | _ => none
  | _ => none

end ConstantPool

/-! ## The machine -/

/-- What a run has besides its stack: the constants, the local variables and the result to return. -/
structure Activation where
  pool : ConstantPool
  locals : List LocalSlot
  result : TypeDescriptor

namespace Activation

/-- What a load puts on the stack: the argument that begins at the local variable, if all its slots are there. -/
def load? (a : Activation) : Instruction Label → Option Operand
  | .localVar op index =>
    match ValueKind.ofLoad? op, a.locals[index.toNat]? with
    | some kind, some (.first number type) =>
      if type.kind? = some kind ∧ LocalSlot.ofArgument number type <+: a.locals.drop index.toNat then
        some (.argument number type)
      else none
    | _, _ => none
  | _ => none

/-- The stack behind an instruction; behind a return it is gone. -/
def step (a : Activation) (stack : List Operand) : Instruction Label → Option (List Operand)
  | .localVar op index => (a.load? (.localVar op index)).map (· :: stack)
  | .simple op =>
    if ValueKind.ofReturn? op = some a.result.kind? ∧ stack.map Operand.type = a.result.values then some [] else none
  | i => (a.pool.effect? i).bind fun e => e.apply stack

/-- The stack behind instructions in a row. -/
def run (a : Activation) (stack : List Operand) (is : List (Instruction Label)) : Option (List Operand) :=
  is.foldlM a.step stack

/-- The instructions, run on an empty stack, lead to the given one at some place. -/
def Reaches (a : Activation) (is : List (Instruction Label)) (stack : List Operand) : Prop :=
  ∃ pre, pre <+: is ∧ a.run [] pre = some stack

/-- The number of slots is that of the deepest stack of the run. -/
structure GreatestDepth (a : Activation) (is : List (Instruction Label)) (n : Nat) : Prop where
  depth_le : ∀ stack, a.Reaches is stack → depth stack ≤ n
  reached : ∃ stack, a.Reaches is stack ∧ depth stack = n

variable {a : Activation} {stack : List Operand} {i : Instruction Label} {is js : List (Instruction Label)}

theorem run_cons : a.run stack (i :: is) = (a.step stack i).bind fun next => a.run next is :=
  List.foldlM_cons

theorem run_append : a.run stack (is ++ js) = (a.run stack is).bind fun next => a.run next js :=
  List.foldlM_append

/-! ## Loads -/

/-- A load takes a whole value of its own kind, from the slot where the value begins. -/
theorem eq_localVar_of_load? {o : Operand} (h : a.load? i = some o) : ∃ op index number type,
    i = .localVar op index ∧ a.locals[index.toNat]? = some (.first number type) ∧
      index.toNat + type.slots ≤ a.locals.length ∧
        ∃ kind, ValueKind.ofLoad? op = some kind ∧ type.kind? = some kind := by
  cases i with
  | localVar op index =>
    rw [load?] at h
    split at h
    · rename_i kind number type hop hlocal
      split at h
      · rename_i hvalue
        have hlength := hvalue.2.length_le
        have hlt := (List.getElem?_eq_some_iff.mp hlocal).1
        rw [LocalSlot.length_ofArgument (TypeDescriptor.isVoid_of_kind? hvalue.1), List.length_drop] at hlength
        exact ⟨op, index, number, type, rfl, hlocal, by omega, kind, hop, hvalue.1⟩
      · cases h
    · cases h
  | _ => cases h

theorem step_of_load? {o : Operand} (h : a.load? i = some o) : a.step stack i = some (o :: stack) := by
  obtain ⟨op, index, -, -, rfl, -⟩ := eq_localVar_of_load? h
  rw [step, h]
  rfl

/-- **A row of loads** puts its values on the stack and leaves what was there. -/
theorem run_of_load? {os : List Operand} (h : is.map a.load? = os.map some) :
    a.run stack is = some (os.reverse ++ stack) := by
  -- the stack below grows with each load
  induction is generalizing os stack with
  | nil =>
    cases os with
    | nil => rfl
    | cons o os => cases h
  | cons i is ih =>
    cases os with
    | nil => cases h
    | cons o os =>
      obtain ⟨hfirst, hrest⟩ := List.cons.inj h
      rw [run_cons, step_of_load? hfirst, Option.bind_some, ih hrest, List.reverse_cons, List.append_assoc]
      rfl

theorem run_nil_of_load? {os : List Operand} (h : is.map a.load? = os.map some) : a.run [] is = some os.reverse := by
  rw [run_of_load? h, List.append_nil]

/-- The load that is chosen for a type is the one for values of the type. -/
theorem loadOf_eq {d : TypeDescriptor} (hvoid : d.isVoid = false) (index : UInt16) : ∃ op kind,
    (Instruction.loadOf d index : Instruction Label) = .localVar op index ∧
      ValueKind.ofLoad? op = some kind ∧ d.kind? = some kind := by
  rw [Instruction.loadOf, TypeDescriptor.kind?]
  rw [TypeDescriptor.isVoid] at hvoid
  cases hp : d.primitive? with
  | none => exact ⟨_, _, rfl, rfl, rfl⟩
  | some p =>
    rw [hp] at hvoid
    cases p with
    | void => cases hvoid
    | _ => exact ⟨_, _, rfl, rfl, rfl⟩

theorem load?_loadOf {index : UInt16} {number : Nat} {type : TypeDescriptor} (hvoid : type.isVoid = false)
    (hlocal : LocalSlot.ofArgument number type <+: a.locals.drop index.toNat) :
    a.load? (.loadOf type index) = some (.argument number type) := by
  obtain ⟨op, kind, heq, hload, hkind⟩ := loadOf_eq hvoid index
  have hfirst : a.locals[index.toNat]? = some (.first number type) := by
    obtain ⟨rest, hrest⟩ := hlocal
    rw [← List.head?_drop, ← hrest]
    rfl
  rw [heq, load?, hload, hfirst]
  exact if_pos ⟨hkind, hlocal⟩

/-! ## The rest of a run -/

/-- An access or a call that finds on the stack what it takes, and nothing else. -/
theorem step_of_effect {e : StackEffect} (hi : a.pool.effect? i = some e)
    (h : stack.map Operand.type = e.takes.reverse) : a.step stack i = some (e.gives.values.map .result) := by
  have hlength : stack.length = e.takes.length := by
    rw [← List.length_map (f := Operand.type), h, List.length_reverse]
  have happly : e.apply stack = some (e.gives.values.map .result) := by
    rw [StackEffect.apply, ← hlength, List.take_length, if_pos h, List.drop_length, List.append_nil]
  have hstep : a.step stack i = (a.pool.effect? i).bind fun e => e.apply stack := by
    cases i with
    | localVar op index => cases hi
    | simple op => cases hi
    | _ => rfl
  rw [hstep, hi, Option.bind_some, happly]

/-- The return that is chosen for a type is the one for values of the type. -/
theorem returnOf_eq (d : TypeDescriptor) : ∃ op, (Instruction.returnOf d : Instruction Label) = .simple op ∧
    ValueKind.ofReturn? op = some d.kind? := by
  rw [Instruction.returnOf, TypeDescriptor.kind?]
  cases d.primitive? with
  | none => exact ⟨_, rfl, rfl⟩
  | some p => cases p <;> exact ⟨_, rfl, rfl⟩

theorem step_returnOf (h : stack.map Operand.type = a.result.values) : a.step stack (.returnOf a.result) = some [] := by
  obtain ⟨op, heq, hreturn⟩ := returnOf_eq a.result
  rw [heq, step, if_pos ⟨hreturn, h⟩]

/-- **The stacks of a run** that loads values, uses them and returns: some of the values, the result, or nothing. -/
theorem reaches_iff {os after : List Operand} {member last : Instruction Label} (hloads : is.map a.load? = os.map some)
    (hmember : a.step os.reverse member = some after) (hlast : a.step after last = some []) :
    a.Reaches (is ++ [member, last]) stack ↔ (∃ n, stack = (os.take n).reverse) ∨ stack = after ∨ stack = [] := by
  have hpart : ∀ n, a.run [] (is.take n) = some (os.take n).reverse := fun n =>
    run_nil_of_load? (by rw [List.map_take, hloads, List.map_take])
  have hused : a.run [] (is ++ [member]) = some after := by
    rw [run_append, run_nil_of_load? hloads, Option.bind_some, run_cons, hmember]
    rfl
  have hreturned : a.run [] (is ++ [member] ++ [last]) = some [] := by
    rw [run_append, hused, Option.bind_some, run_cons, hlast]
    rfl
  rw [Reaches, List.append_cons]
  constructor
  -- a part of the instructions in front is all of them, all but the return, or some of the loads
  · rintro ⟨pre, hpre, hrun⟩
    rcases List.prefix_concat_iff.mp hpre with rfl | hpre
    · exact .inr (.inr (Option.some.inj (hrun.symm.trans hreturned)))
    · rcases List.prefix_concat_iff.mp hpre with rfl | hpre
      · exact .inr (.inl (Option.some.inj (hrun.symm.trans hused)))
      · rw [List.prefix_iff_eq_take.mp hpre] at hrun
        exact .inl ⟨pre.length, Option.some.inj (hrun.symm.trans (hpart _))⟩
  · rintro (⟨n, rfl⟩ | rfl | rfl)
    · refine ⟨is.take n, ?_, hpart n⟩
      rw [List.append_assoc]
      exact (List.take_prefix n is).trans (List.prefix_append _ _)
    · exact ⟨is ++ [member], List.prefix_append _ _, hused⟩
    · exact ⟨_, List.prefix_refl _, hreturned⟩

/-- **A run is deepest** when all values are loaded, or when the result is there. -/
theorem greatestDepth {os after : List Operand} {member last : Instruction Label}
    (hloads : is.map a.load? = os.map some)
    (hmember : a.step os.reverse member = some after) (hlast : a.step after last = some []) :
    a.GreatestDepth (is ++ [member, last]) (max (depth os) (depth after)) where
  depth_le stack hstack := by
    rcases (reaches_iff hloads hmember hlast).mp hstack with ⟨n, rfl⟩ | rfl | rfl
    · rw [depth_reverse]
      exact Nat.le_trans (depth_take_le n os) (Nat.le_max_left _ _)
    · exact Nat.le_max_right _ _
    · exact Nat.zero_le _
  reached := by
    rcases Nat.le_total (depth os) (depth after) with hle | hle
    · exact ⟨after, (reaches_iff hloads hmember hlast).mpr (.inr (.inl rfl)), (Nat.max_eq_right hle).symm⟩
    · refine ⟨os.reverse, (reaches_iff hloads hmember hlast).mpr (.inl ⟨os.length, ?_⟩), ?_⟩
      · rw [List.take_length]
      · rw [depth_reverse, Nat.max_eq_left hle]

end Activation

end ClassWeaver
