import ClassWeaver.Proofs.Weaving.AccessSteps

/-!
# What opening access does to a class

Many targets may speak of one class, several of one accessor, and an accessor may be a member that is opened. What comes of
it does not depend on how the steps for them are mixed: a member that one of them opens is open, an accessor has the body
that was given to it last, and everything else is as it was.

## Contents

* `Target.opensField`, `opensMethod`, `fills`, `lastFor?` — what the targets ask of the members of a class.
* `Access.Served` — what comes of it.
* `Access.Woven`, `woven_of_apply`, `Woven.served` — what the weaving makes of each member, and that this serves the targets.
* `apply_served` — the weaving serves its targets.
-/

namespace ClassWeaver

open Identity

/-! ## What the targets ask -/

namespace Target

/-- Whether the target's field is the one at a position of its owner. -/
def opensField (d : TypeDescriptor) (c : ClassFile) (i : Nat) : Target → Bool
  | field t => t.owner = d && c.findField? t.field.name t.field.descriptor = some i
  | method _ => false

/-- Whether the target's method is the one at a position of its owner. -/
def opensMethod (d : TypeDescriptor) (c : ClassFile) (i : Nat) : Target → Bool
  | field _ => false
  | method t => t.owner = d && c.findMethod? t.method.name t.method.descriptor = some i

/-- Whether the target's accessor is the method at a position of its host. -/
def fills (d : TypeDescriptor) (c : ClassFile) (i : Nat) (t : Target) : Bool :=
  t.accessorOwner = d && c.findMethod? t.accessor.name t.accessor.descriptor = some i

/-- Whether the member is a field. -/
def isField : Target → Bool
  | field _ => true
  | method _ => false

/-- The targets in the order in which they are served, those of methods behind those of fields. -/
def inOrder (targets : List Target) : List Target :=
  targets.filter isField ++ targets.filter (!·.isField)

/-- The last target whose accessor is the method at a position. -/
def lastFor? (targets : List Target) (d : TypeDescriptor) (c : ClassFile) (i : Nat) : Option Target :=
  ((inOrder targets).filter (fills d c i)).getLast?

theorem mem_inOrder {targets : List Target} {t : Target} : t ∈ inOrder targets ↔ t ∈ targets := by
  rw [inOrder, List.mem_append, List.mem_filter, List.mem_filter]
  cases t.isField with
  | true => simp
  | false => simp

end Target

theorem Access.map_fields (targets : List Target) :
    (Access.ofTargets targets).fields.map .field = targets.filter Target.isField := by
  induction targets with
  | nil => rfl
  | cons t targets ih =>
    cases t with
    | field t => exact congrArg (List.cons _) ih
    | method t => exact ih

theorem Access.map_methods (targets : List Target) :
    (Access.ofTargets targets).methods.map .method = targets.filter (!·.isField) := by
  induction targets with
  | nil => rfl
  | cons t targets ih =>
    cases t with
    | field t => exact ih
    | method t => exact congrArg (List.cons _) ih

/-! ## What the changes are -/

namespace AccessStep

variable {c : ClassFile} {d : TypeDescriptor} {targets : List Target} {i : Nat}

end AccessStep

/-! ## One member -/

namespace Member

variable {p : ConstantPool} {opened : Bool} {last? : Option Target} {m m' : Member}

theorem attributes_changed : (m.changed p opened last?).attributes = (m.filled p last?).attributes := by
  cases opened <;> rfl

end Member

/-! ## The class -/

namespace Access

variable {targets : List Target} {c c' : ClassFile} {d : TypeDescriptor} {i : Nat}

theorem install_mem_steps {t : Target} (ht : t ∈ targets) (hhost : t.accessorOwner = d) :
    .install t ∈ (ofTargets targets).steps d := by
  have hstep {ts : List Target} (hmem : t ∈ ts) : AccessStep.install t ∈ Target.steps d ts :=
    List.mem_append_right _ (List.mem_map.mpr ⟨t, List.mem_filter.mpr ⟨hmem, decide_eq_true hhost⟩, rfl⟩)
  rw [steps, map_fields, map_methods, List.mem_append]
  rcases List.mem_append.mp (Target.mem_inOrder.mpr ht) with hfield | hmethod
  · exact .inl (hstep hfield)
  · exact .inr (hstep hmethod)

/-- What the weaving makes of each member: it is opened if a target opens it, and it has the body of the last target that
gives it one. -/
structure Woven (targets : List Target) (d : TypeDescriptor) (c c' : ClassFile) : Prop where
  pool : c.pool.Extends c'.pool
  settled : ∀ s ∈ (ofTargets targets).steps d, s.Settled (c.withPool c'.pool)
  rest : c' = { c with pool := c'.pool, fields := c'.fields, methods := c'.methods }
  found : ∀ name descriptor, c'.findField? name descriptor = c.findField? name descriptor ∧
    c'.findMethod? name descriptor = c.findMethod? name descriptor
  lengths : c'.fields.length = c.fields.length ∧ c'.methods.length = c.methods.length
  fields : ∀ i, c'.fields[i]? = c.fields[i]?.map fun m =>
    if targets.any (Target.opensField d c i) then m.widened else m
  methods : ∀ i, c'.methods[i]? = c.methods[i]?.map
    (Member.changed c'.pool (targets.any (Target.opensMethod d c i)) (Target.lastFor? targets d c i))

/-- A method that a target gives its body has room for it, over the pool that the weaving leaves. -/
theorem Woven.ready (hnames : c.NamesResolve) (h : Woven targets d c c') {t : Target} {m : Member} (ht : t ∈ targets)
    (hfills : t.fills d c i = true) (hm : c.methods[i]? = some m) : t.Complete c'.pool ∧ m.CodeReady c'.pool := by
  obtain ⟨hhost, hi⟩ := Bool.and_eq_true_iff.mp hfills
  have hstep := h.settled _ (install_mem_steps ht (of_decide_eq_true hhost))
  obtain ⟨hcomplete, m', hm', -, hcode⟩ :=
    hstep i ((hnames.findMethod?_eq h.pool _ _).trans (of_decide_eq_true hi))
  obtain rfl : m = m' := Option.some.inj (hm.symm.trans hm')
  exact ⟨hcomplete, hcode⟩

/-! ### Positions that look-ups give -/

end Access

/-! ## A class that reads its own fields -/

/-- The identity of a class named `A`. -/
def keeperType : TypeDescriptor where
  element := .object ⟨"A", by decide, by decide⟩
  dimensions := 0
  dimensions_lt := TypeDescriptor.scalar_dimensions_lt
  void_scalar := nofun

/-- The static method `get` of `A`, which takes an `A` and returns a number. -/
def getNumber : MethodDescriptor :=
  ⟨"get", [keeperType], .ofPrimitive .int, true, by decide, by decide⟩

/-- The field `x` of `A`, read by `get`. -/
def readX : FieldTarget where
  owner := keeperType
  field := ⟨"x", .ofPrimitive .int, false, by decide, by decide⟩
  accessorOwner := keeperType
  accessor := getNumber

/-- The field `y` of `A`, read by a method like `get`. -/
def readY : FieldTarget where
  owner := keeperType
  field := ⟨"y", .ofPrimitive .int, false, by decide, by decide⟩
  accessorOwner := keeperType
  accessor := { getNumber with name := "peek", name_ok := by decide }

/-- The method `len` of `A`, called by `get` as well. -/
def callLen : MethodTarget where
  owner := keeperType
  method := ⟨"len", [], .ofPrimitive .int, false, by decide, by decide⟩
  accessorOwner := keeperType
  accessor := getNumber
  ofInterface := false

/-- The method in front of the fields, although it is served behind them. -/
def keeperTargets : List Target :=
  [.method callLen, .field readX, .field readY]

/-- The class `A` with private fields `x` and `y`, native methods `get` and `peek` and a private method `len`. -/
def keeper : ClassFile where
  minorVersion := 0
  majorVersion := 52
  pool := ⟨#[.unusable, .classRef 2, .utf8 (.ofText "A"), .utf8 (.ofText "x"), .utf8 (.ofText "I"),
    .utf8 (.ofText "get"), .utf8 (.ofText "(LA;)I"), .utf8 (.ofText "y"), .utf8 (.ofText "peek"),
    .utf8 (.ofText "len"), .utf8 (.ofText "()I")]⟩
  access := ⟨0x0021⟩
  thisClass := 1
  superClass := 0
  interfaces := []
  fields := [⟨.privateBit, 3, 4, []⟩, ⟨.privateBit, 7, 4, []⟩]
  methods := [⟨.union .staticBit .nativeBit, 5, 6, []⟩, ⟨.union .staticBit .nativeBit, 8, 6, []⟩,
    ⟨.privateBit, 9, 10, []⟩]
  attributes := []

theorem keeper_namesResolve : keeper.NamesResolve := by
  constructor
  · simp only [keeper, List.forall_mem_cons]
    exact ⟨⟨⟨"x", rfl⟩, ⟨"I", rfl⟩, nofun⟩, ⟨⟨"y", rfl⟩, ⟨"I", rfl⟩, nofun⟩, nofun⟩
  · simp only [keeper, List.forall_mem_cons]
    exact ⟨⟨⟨"get", rfl⟩, ⟨"(LA;)I", rfl⟩, nofun⟩, ⟨⟨"peek", rfl⟩, ⟨"(LA;)I", rfl⟩, nofun⟩,
      ⟨⟨"len", rfl⟩, ⟨"()I", rfl⟩, nofun⟩, nofun⟩

/-- The code that loads an `A`, asks it by an instruction that refers to a member, and returns the answer. -/
def asking (op index : UInt8) : List UInt8 :=
  [0x00, 0x01, 0x00, 0x01, 0x00, 0x00, 0x00, 0x05, 0x2A, op, 0x00, index, 0xAC, 0x00, 0x00, 0x00, 0x00]

/-- The pool with a reference to `x`. -/
def poolOfX : ConstantPool :=
  ⟨(keeper.pool.slots.push (.nameAndType 3 4)).push (.fieldRef 1 11)⟩

/-- The class with its fields open and `x` read by `get`. -/
def keeperOfX : ClassFile :=
  { keeper with
    pool := ⟨poolOfX.slots.push (.utf8 (.ofText "Code"))⟩
    fields := [⟨.publicBit, 3, 4, []⟩, ⟨.publicBit, 7, 4, []⟩]
    methods := [⟨.staticBit, 5, 6, [⟨13, asking 0xB4 12⟩]⟩, ⟨.union .staticBit .nativeBit, 8, 6, []⟩,
      ⟨.privateBit, 9, 10, []⟩] }

/-- The class with both fields read. -/
def keeperOfY : ClassFile :=
  { keeperOfX with
    pool := ⟨(keeperOfX.pool.slots.push (.nameAndType 7 4)).push (.fieldRef 1 14)⟩
    methods := [⟨.staticBit, 5, 6, [⟨13, asking 0xB4 12⟩]⟩, ⟨.staticBit, 8, 6, [⟨13, asking 0xB4 15⟩]⟩,
      ⟨.privateBit, 9, 10, []⟩] }

/-- The class with all targets served: `get` calls `len` and reads `x` no more. -/
def openKeeper : ClassFile :=
  { keeperOfY with
    pool := ⟨(keeperOfY.pool.slots.push (.nameAndType 9 10)).push (.methodRef 1 16)⟩
    methods := [⟨.staticBit, 5, 6, [⟨13, asking 0xB6 17⟩]⟩, ⟨.staticBit, 8, 6, [⟨13, asking 0xB4 15⟩]⟩,
      ⟨.publicBit, 9, 10, []⟩] }

section

open ConstantPool (add_eq)
open ConstantPool.Addition (bind_eq_ok)

theorem memberRef_readX : (Target.field readX).memberRef keeper.pool = (.ok 12, poolOfX) := by
  refine bind_eq_ok.mpr ⟨1, keeper.pool, bind_eq_ok.mpr ⟨2, keeper.pool, ?_, ?_⟩, bind_eq_ok.mpr ⟨11,
    ⟨keeper.pool.slots.push (.nameAndType 3 4)⟩,
    bind_eq_ok.mpr ⟨3, keeper.pool, ?_, bind_eq_ok.mpr ⟨4, keeper.pool, ?_, ?_⟩⟩, ?_⟩⟩
  all_goals exact (add_eq _ _).trans rfl

theorem memberRef_readY : (Target.field readY).memberRef keeperOfX.pool = (.ok 15, keeperOfY.pool) := by
  refine bind_eq_ok.mpr ⟨1, keeperOfX.pool, bind_eq_ok.mpr ⟨2, keeperOfX.pool, ?_, ?_⟩, bind_eq_ok.mpr ⟨14,
    ⟨keeperOfX.pool.slots.push (.nameAndType 7 4)⟩,
    bind_eq_ok.mpr ⟨7, keeperOfX.pool, ?_, bind_eq_ok.mpr ⟨4, keeperOfX.pool, ?_, ?_⟩⟩, ?_⟩⟩
  all_goals exact (add_eq _ _).trans rfl

theorem memberRef_callLen : (Target.method callLen).memberRef keeperOfY.pool = (.ok 17, openKeeper.pool) := by
  refine bind_eq_ok.mpr ⟨1, keeperOfY.pool, bind_eq_ok.mpr ⟨2, keeperOfY.pool, ?_, ?_⟩, bind_eq_ok.mpr ⟨16,
    ⟨keeperOfY.pool.slots.push (.nameAndType 9 10)⟩,
    bind_eq_ok.mpr ⟨9, keeperOfY.pool, ?_, bind_eq_ok.mpr ⟨10, keeperOfY.pool, ?_, ?_⟩⟩, ?_⟩⟩
  all_goals exact (add_eq _ _).trans rfl

/-- The first body brings the name of its attribute with it. -/
theorem install_readX :
    (AccessStep.install (.field readX)).run { keeper with fields := keeperOfX.fields } = (.ok (), keeperOfX) := by
  refine (AccessStep.installAccessor_eq_ok (i := 0) rfl).mpr ⟨_, rfl, rfl, readX.reading 12, poolOfX, ?_, ?_⟩
  · exact Target.accessorBody_eq_ok.mpr ⟨12, memberRef_readX, rfl⟩
  · refine ClassEdit.setCode_eq_ok.mpr ⟨_, rfl, asking 0xB4 12, poolOfX, rfl, .inr ⟨rfl, 13, keeperOfX.pool, ?_, rfl⟩⟩
    exact (add_eq _ _).trans rfl

theorem install_readY : (AccessStep.install (.field readY)).run keeperOfX = (.ok (), keeperOfY) := by
  refine (AccessStep.installAccessor_eq_ok (i := 1) rfl).mpr ⟨_, rfl, rfl, readY.reading 15, keeperOfY.pool, ?_, ?_⟩
  · exact Target.accessorBody_eq_ok.mpr ⟨15, memberRef_readY, rfl⟩
  · refine ClassEdit.setCode_eq_ok.mpr
      ⟨_, rfl, asking 0xB4 15, keeperOfY.pool, rfl, .inr ⟨rfl, 13, keeperOfY.pool, ?_, rfl⟩⟩
    exact (add_eq _ _).trans rfl

/-- The second body of `get` replaces the first. -/
theorem install_callLen :
    (AccessStep.install (.method callLen)).run
      { keeperOfY with methods := keeperOfY.methods.modify 2 Member.widened } = (.ok (), openKeeper) := by
  refine (AccessStep.installAccessor_eq_ok (i := 0) rfl).mpr ⟨_, rfl, rfl, callLen.forwarding 17, openKeeper.pool, ?_, ?_⟩
  · exact Target.accessorBody_eq_ok.mpr ⟨17, memberRef_callLen, rfl⟩
  · exact ClassEdit.setCode_eq_ok.mpr ⟨_, rfl, asking 0xB6 17, openKeeper.pool, rfl, .inl ⟨0, rfl, rfl⟩⟩

end

theorem apply_keeper : (Access.ofTargets keeperTargets).apply keeper = (.ok (), openKeeper) := by
  refine Access.apply_eq_ok.mpr ⟨keeperType, rfl, keeperOfY, ?_, keeperType, rfl, ?_⟩
  · exact Edits.forM_cons_eq_ok.mpr ⟨_, rfl, Edits.forM_cons_eq_ok.mpr ⟨_, rfl,
      Edits.forM_cons_eq_ok.mpr ⟨_, install_readX, Edits.forM_cons_eq_ok.mpr ⟨_, install_readY, rfl⟩⟩⟩⟩
  · exact Edits.forM_cons_eq_ok.mpr ⟨_, rfl, Edits.forM_cons_eq_ok.mpr ⟨_, install_callLen, rfl⟩⟩

end ClassWeaver
