import ClassWeaver.Proofs.ClassFile.StoredPools
import ClassWeaver.Proofs.Engine.Dispatch
import ClassWeaver.Proofs.Weaving.AccessEffect
import ClassWeaver.Weaving.Prefab

/-!
# Opening access a second time

The weaving of access builds every accessor's body anew, adds every constant anew and puts every body where it finds one.
Done to a class that it has just changed it finds all of this there, and leaves the class as it is, constant pool included.
Written and read in between, the class is the same as long as there was room in it for what was added.

## Contents

* `apply_of_apply` — the second time.
* `RoomIn`, `writable_of_apply` — a changed class can be written and read again.
* `apply_again` — the second time, and the second time over what was written.
* `readLetters_not_again` — a name that leaves no room.
-/

namespace ClassWeaver

open Identity

variable {a : Access} {c c' : ClassFile}

/-! ## The limits of the format -/

namespace AccessStep

variable {s : AccessStep} {ss : List AccessStep}

/-- The texts that the step asks for can be written. -/
def TextsFit : AccessStep → Prop
  | install t => ∀ text ∈ t.memberTexts, (ModifiedUtf8.encode text).length ≤ 65535
  | _ => True

/-- **A step keeps the pool within the limits.** -/
theorem wellFormed_of_run (hfit : s.TextsFit) (hpool : c.pool.WellFormed) (h : s.run c = (.ok (), c')) :
    c'.pool.WellFormed := by
  have hmade (k? : Option Change) : (k?.elim c (·.apply c)).pool.WellFormed := by
    cases k? with
    | none => exact hpool
    | some k => exact (Change.pool_apply k c).symm ▸ hpool
  cases s with
  | openField f =>
    obtain rfl : _ = c' := congrArg Prod.snd ((run_openField f c).symm.trans h)
    exact hmade _
  | openMethod m =>
    obtain rfl : _ = c' := congrArg Prod.snd ((run_openMethod m c).symm.trans h)
    exact hmade _
  | install t =>
    cases hi : c.findMethod? t.accessor.name t.accessor.descriptor with
    | none =>
      rw [run, Weaving.installAccessor, Edits.get_bind, hi] at h
      cases h
      exact hpool
    | some i =>
      obtain ⟨m, -, -, body, pool, hbody, hset⟩ := (installAccessor_eq_ok hi).mp h
      obtain ⟨index, hindex, -⟩ := Target.accessorBody_eq_ok.mp hbody
      have hreferring := Target.keepsLimits_memberRef hfit hpool hindex
      obtain ⟨_, -, info, later, hencode, hcases⟩ := ClassEdit.setCode_eq_ok.mp hset
      obtain rfl := Target.pool_of_encode hbody hencode
      rcases hcases with ⟨_, -, rfl⟩ | ⟨-, _, named, hname, rfl⟩
      · exact hreferring
      · exact hreferring.addUtf8 (by decide) hname

theorem wellFormed_of_run_all (hfit : ∀ s ∈ ss, s.TextsFit) (hpool : c.pool.WellFormed)
    (h : ss.forM run c = (.ok (), c')) : c'.pool.WellFormed := by
  induction ss generalizing c with
  | nil => exact Edits.forM_nil_eq_ok.mp h ▸ hpool
  | cons s ss ih =>
    obtain ⟨hs, hss⟩ := List.forall_mem_cons.mp hfit
    obtain ⟨u, hu, hrest⟩ := Edits.forM_cons_eq_ok.mp h
    exact ih hss (wellFormed_of_run hs hpool hu) hrest

end AccessStep

namespace Access

/-- What has to be left of the limits of the format for the accessors' bodies to be written. -/
structure RoomIn (a : Access) (c : ClassFile) : Prop where
  slots : c.pool.count ≤ 65535
  texts : ∀ t ∈ a.fields.map Target.field ++ a.methods.map Target.method, ∀ text ∈ t.memberTexts,
    (ModifiedUtf8.encode text).length ≤ 65535
  attributes : ∀ m ∈ c.methods, m.attributes.length < 65535
  bodies : ∀ t ∈ a.fields.map Target.field ++ a.methods.map Target.method, t.Countable

/-- A body is installed for a target. -/
theorem mem_of_install_mem_steps {d : TypeDescriptor} {t : Target} (h : .install t ∈ a.steps d) :
    t ∈ a.fields.map Target.field ++ a.methods.map Target.method :=
  List.mem_append.mpr
    ((List.mem_append.mp h).imp Target.mem_of_install_mem_steps Target.mem_of_install_mem_steps)

theorem RoomIn.textsFit {d : TypeDescriptor} (h : a.RoomIn c) : ∀ s ∈ a.steps d, s.TextsFit := by
  intro s hs
  cases s with
  | openField f => trivial
  | openMethod m => trivial
  | install t => exact h.texts t (mem_of_install_mem_steps hs)

end Access

theorem Member.BodyReplaced.writable {p : ConstantPool} {info : List UInt8} {old new : List Attribute}
    (h : Member.BodyReplaced p info old new) (hinfo : info.length < 4294967296) (hroom : old.length < 65535)
    (hold : WritableList Attribute.Writable old) : WritableList Attribute.Writable new := by
  obtain ⟨hlength, hall⟩ := hold
  cases h with
  | @replaced front back b hfront hb =>
    rw [List.forall_mem_append, List.forall_mem_cons] at hall
    refine ⟨?_, List.forall_mem_append.mpr ⟨hall.1, List.forall_mem_cons.mpr ⟨hinfo, hall.2.2⟩⟩⟩
    rwa [List.length_append, List.length_cons, ← List.length_cons (a := b), ← List.length_append]
  | inserted hnone hname =>
    exact ⟨hroom, List.forall_mem_cons.mpr ⟨hinfo, hall⟩⟩

namespace Change

variable {ks : List Change}

theorem writable_fields (ks : List Change) (h : ∀ m ∈ c.fields, m.Writable) :
    ∀ m ∈ (applyAll ks c).fields, m.Writable := by
  intro m' hm'
  obtain ⟨i, hi⟩ := List.mem_iff_getElem?.mp hm'
  rw [getElem?_fields_applyAll] at hi
  obtain ⟨m, hm, rfl⟩ := Option.map_eq_some_iff.mp hi
  have hold := h m (List.mem_of_getElem? hm)
  split
  · exact hold
  · exact hold

theorem writable_methods (hready : ∀ k ∈ ks, k.Ready c)
    (hcomplete : ∀ i t, .method i (.fill t) ∈ ks → t.Complete c.pool ∧ t.Countable)
    (hroom : ∀ m ∈ c.methods, m.attributes.length < 65535)
    (h : ∀ m ∈ c.methods, m.Writable) : ∀ m ∈ (applyAll ks c).methods, m.Writable := by
  intro m' hm'
  obtain ⟨i, hi⟩ := List.mem_iff_getElem?.mp hm'
  rw [getElem?_methods_of_ready hready] at hi
  obtain ⟨m, hm, rfl⟩ := Option.map_eq_some_iff.mp hi
  have hmem := List.mem_of_getElem? hm
  rw [Member.Writable, Member.attributes_changed]
  cases hlast : MemberChange.lastTarget? (ofMethod i ks) with
  | none => exact h m hmem
  | some t =>
    have hfill := mem_ofMethod.mp (MemberChange.mem_of_lastTarget? hlast)
    obtain ⟨⟨body, hbody, hinfo⟩, ht⟩ := hcomplete i t hfill
    have hlength := Target.length_of_encode ht hbody hinfo
    have hreplaced : Member.BodyReplaced c.pool (t.payload c.pool) m.attributes _ :=
      Member.bodyReplaced_withCode (m := m.withBody) (hready _ hfill m hm)
    exact hreplaced.writable (by omega) (hroom m hmem) (h m hmem)

end Change

namespace Access

/-- **A changed class can be written and read again**, if there was room in it for what was added. -/
theorem writable_of_apply (hnames : c.NamesResolve) (hroom : a.RoomIn c) (hc : c.Writable)
    (h : a.apply c = (.ok (), c')) : c'.Writable := by
  have hcount := Nat.le_succ_of_le hroom.slots
  obtain ⟨d, hd, hextends, hsettled, heq⟩ := settled_of_apply hnames hcount h
  have hpool : c'.pool.WellFormed := by
    obtain ⟨d', -, hsteps⟩ := forM_steps_of_apply hnames hcount h
    exact AccessStep.wellFormed_of_run_all hroom.textsFit hc.pool hsteps
  obtain ⟨hfieldCount, hmethodCount⟩ :=
    Change.length_applyAll (AccessStep.changes (a.steps d) (c.withPool c'.pool)) (c.withPool c'.pool)
  have hfields := Change.writable_fields (c := c.withPool c'.pool)
    (AccessStep.changes (a.steps d) (c.withPool c'.pool)) hc.fields.2
  have hmethods := Change.writable_methods (AccessStep.ready_of_mem_changes hsettled)
    (fun i t hk => ⟨AccessStep.complete_of_mem_changes hsettled hk,
      hroom.bodies t (mem_of_install_mem_steps (AccessStep.install_mem_of_mem_changes hk).1)⟩)
    hroom.attributes hc.methods.2
  have hrest := Change.applyAll_eq (AccessStep.changes (a.steps d) (c.withPool c'.pool)) (c.withPool c'.pool)
  rw [← heq] at hfieldCount hmethodCount hfields hmethods hrest
  obtain ⟨name, hname⟩ := hc.named
  refine ⟨hpool, ?_, ⟨Nat.le_trans (Nat.le_of_eq hfieldCount) hc.fields.1, hfields⟩,
    ⟨Nat.le_trans (Nat.le_of_eq hmethodCount) hc.methods.1, hmethods⟩, ?_, ?_⟩
  · rw [hrest]
    exact hc.interfaces
  · rw [hrest]
    exact hc.attributes
  · rw [hrest]
    exact ⟨name, hextends.className hname⟩

/-! ## The second time -/

/-- The weaving finds in a class that it changed all that it would add and change. -/
theorem apply_of_apply (hnames : c.NamesResolve) (hcount : c.pool.count ≤ 65536) (h : a.apply c = (.ok (), c')) :
    a.apply c' = (.ok (), c') := by
  obtain ⟨d, hd, hextends, hsettled, heq⟩ := settled_of_apply hnames hcount h
  have hready := AccessStep.ready_of_mem_changes hsettled
  have hd' : c'.typeDescriptor = .ok d := by
    refine typeDescriptor_of_extends hextends ?_ hd
    rw [heq, Change.applyAll_eq]
    rfl
  have hchanges : AccessStep.changes (a.steps d) c' = AccessStep.changes (a.steps d) (c.withPool c'.pool) :=
    (congrArg _ heq).trans (AccessStep.changes_applyAll _ _ _)
  rw [apply_of_settled hd' fun s hs => heq ▸ AccessStep.settled_applyAll hready (hsettled s hs), hchanges]
  refine congrArg (Prod.mk _) ?_
  calc Change.applyAll (AccessStep.changes (a.steps d) (c.withPool c'.pool)) c'
    _ = _ := congrArg _ heq
    _ = _ := Change.applyAll_applyAll hready
    _ = c' := heq.symm

/-- **Opening access a second time changes nothing.** It succeeds where it succeeded once, and leaves the class as it is,
with the constant pool. So bytes of a changed class are rewritten to the bytes of that class; in particular, where a class
was read and there was room in it for what was added, what is written of the changed class is rewritten to itself. -/
theorem apply_again (hnames : c.NamesResolve) (hcount : c.pool.count ≤ 65536) (h : a.apply c = (.ok (), c')) :
    a.apply c' = (.ok (), c') ∧ ∀ name className,
      (∀ bytes, ClassFile.ofBytes bytes = .ok c' →
        Pass.rewrite ⟨name, (Prefab.access a).apply⟩ className bytes = .ok c'.toBytes) ∧
      ∀ bytes, ClassFile.ofBytes bytes = .ok c → a.RoomIn c →
        Pass.rewrite ⟨name, (Prefab.access a).apply⟩ className bytes = .ok c'.toBytes ∧
          Pass.rewrite ⟨name, (Prefab.access a).apply⟩ className c'.toBytes = .ok c'.toBytes := by
  have hagain := apply_of_apply hnames hcount h
  have hsecond {bytes : List UInt8} (hread : ClassFile.ofBytes bytes = .ok c') (name className : String) :
      Pass.rewrite ⟨name, (Prefab.access a).apply⟩ className bytes = .ok c'.toBytes :=
    Pass.rewrite_eq_ok.mpr ⟨c', hread, c', hagain, rfl⟩
  refine ⟨hagain, fun name className => ⟨fun bytes hread => hsecond hread name className, fun bytes hread hroom => ?_⟩⟩
  have hwritable := writable_of_apply hnames hroom (ClassFile.writable_of_ofBytes hread hroom.slots) h
  exact ⟨Pass.rewrite_eq_ok.mpr ⟨c, hread, c', h, rfl⟩,
    hsecond (hwritable.read_iff.mpr rfl) name className⟩

theorem roomIn_keeper : (ofTargets keeperTargets).RoomIn keeper where
  slots := by decide
  texts := by decide
  attributes := by decide
  bodies := by decide

/-- What `apply_again` says of the class that reads its own fields. -/
theorem apply_again_keeper :
    (ofTargets keeperTargets).apply keeper = (.ok (), openKeeper) ∧
      (ofTargets keeperTargets).apply openKeeper = (.ok (), openKeeper) ∧
        Pass.rewrite ⟨"access", (Prefab.access (ofTargets keeperTargets)).apply⟩ "A" keeper.toBytes =
          .ok openKeeper.toBytes ∧
        Pass.rewrite ⟨"access", (Prefab.access (ofTargets keeperTargets)).apply⟩ "A" openKeeper.toBytes =
          .ok openKeeper.toBytes := by
  obtain ⟨hagain, hbytes⟩ := apply_again keeper_namesResolve (by decide) apply_keeper
  have hread : ClassFile.ofBytes keeper.toBytes = .ok keeper := rfl
  obtain ⟨hfirst, hsecond⟩ := (hbytes "access" "A").2 keeper.toBytes hread roomIn_keeper
  exact ⟨apply_keeper, hagain, hfirst, hsecond⟩

/-! ### A name that is too long -/

open Bytes
open ConstantPool (add_eq letters encode_letters length_encode_letters)

theorem int_not_void : (TypeDescriptor.ofPrimitive .int).isVoid = false := by
  decide

/-- The field of `A` with the given name, read by `get`. -/
def readNamed (name : String) (hname : isMemberName name = true ∧ name.toList.head? ≠ some '<') : FieldTarget where
  owner := keeperType
  field := ⟨name, .ofPrimitive .int, false, hname, int_not_void⟩
  accessorOwner := keeperType
  accessor := getNumber

/-- The pool with the given text. -/
def poolOfText (name : String) : ConstantPool :=
  ⟨keeper.pool.slots.push (.utf8 (.ofText name))⟩

/-- The pool with a reference to a field of the given name. -/
def poolOfNamed (name : String) : ConstantPool :=
  ⟨((poolOfText name).slots.push (.nameAndType 11 4)).push (.fieldRef 1 12)⟩

/-- The class with such a field read by `get`. -/
def keeperOfNamed (name : String) : ClassFile :=
  { keeper with
    pool := ⟨(poolOfNamed name).slots.push (.utf8 (.ofText "Code"))⟩
    methods := [⟨.staticBit, 5, 6, [⟨14, asking 0xB4 13⟩]⟩, ⟨.union .staticBit .nativeBit, 8, 6, []⟩,
      ⟨.privateBit, 9, 10, []⟩] }

theorem keeper_pool_writable : ∀ c ∈ keeper.pool.slots.toList, c.Writable :=
  (ClassFile.writable_of_ofBytes (show ClassFile.ofBytes keeper.toBytes = .ok keeper from rfl) (by decide)).pool.writable

section

variable {name : String} (hname : isMemberName name = true ∧ name.toList.head? ≠ some '<')
  (hlength : (ModifiedUtf8.encode name).length = 65536)

include hlength

/-- The name is no text of the class. -/
theorem ne_of_length {text : String} (h : (ModifiedUtf8.encode text).length < 65536) : (text == name) = false := by
  rw [beq_eq_false_iff_ne]
  rintro rfl
  omega

theorem notMem_keeper : Constant.utf8 (.ofText name) ∉ keeper.pool.slots.toList := by
  intro h
  have hshort : (ModifiedUtf8.encode name).length < 65536 := (keeper_pool_writable _ h).1
  omega

/-- The name of the attribute is not that of the field. -/
theorem code_notMem : Constant.utf8 (.ofText "Code") ∉ (poolOfNamed name).slots.toList := by
  have hne : "Code" ≠ name := beq_eq_false_iff_ne.mp (ne_of_length hlength (by decide))
  simp [poolOfNamed, poolOfText, keeper, Utf8Constant.ofText, hne]

theorem findField?_named : keeper.findField? name "I" = none := by
  have hx : keeper.pool.hasText 3 name = false := ne_of_length hlength (by decide)
  have hy : keeper.pool.hasText 7 name = false := ne_of_length hlength (by decide)
  refine List.findIdx?_eq_none_iff.mpr ?_
  simp only [keeper, List.forall_mem_cons]
  exact ⟨Bool.and_eq_false_imp.mpr fun h => absurd (hx.symm.trans h) (by decide),
    Bool.and_eq_false_imp.mpr fun h => absurd (hy.symm.trans h) (by decide), List.forall_mem_nil _⟩

omit hlength in
theorem memberRef_eq_addFieldRef :
    (Target.field (readNamed name hname)).memberRef = ConstantPool.addFieldRef "A" name "I" := by
  have howner : keeperType.internalName = "A" := rfl
  have htype : (TypeDescriptor.ofPrimitive .int).descriptor = "I" := rfl
  show ConstantPool.addFieldRef keeperType.internalName name (TypeDescriptor.ofPrimitive .int).descriptor = _
  rw [howner, htype]

open ConstantPool.Addition (bind_eq_ok) in
theorem addFieldRef_named : ConstantPool.addFieldRef "A" name "I" keeper.pool = (.ok 13, poolOfNamed name) := by
  refine bind_eq_ok.mpr ⟨1, keeper.pool, bind_eq_ok.mpr ⟨2, keeper.pool, ?_, ?_⟩, bind_eq_ok.mpr ⟨12,
    ⟨(poolOfText name).slots.push (.nameAndType 11 4)⟩,
    bind_eq_ok.mpr ⟨11, poolOfText name, ?name, bind_eq_ok.mpr ⟨4, poolOfText name, ?type, ?pair⟩⟩, ?reference⟩⟩
  case name => exact ConstantPool.add_of_notMem (n := 11) (notMem_keeper hlength) rfl rfl (by decide)
  case type =>
    -- the class has this text already, and a longer pool finds it in its old slot
    have hthere : ConstantPool.addUtf8 "I" keeper.pool = (.ok 4, keeper.pool) := (add_eq _ _).trans rfl
    exact ConstantPool.add_again hthere ⟨[.utf8 (.ofText name)], Array.toList_push.symm⟩
  case pair => exact ConstantPool.add_of_notMem (n := 12) (by simp [poolOfText, keeper]) rfl rfl (by decide)
  case reference => exact ConstantPool.add_of_notMem (n := 13) (by simp [poolOfText, keeper]) rfl rfl (by decide)
  all_goals exact (add_eq _ _).trans rfl

theorem install_named :
    (AccessStep.install (.field (readNamed name hname))).run keeper = (.ok (), keeperOfNamed name) := by
  refine (AccessStep.installAccessor_eq_ok (i := 0) rfl).mpr
    ⟨_, rfl, rfl, (readNamed name hname).reading 13, poolOfNamed name, ?_, ?_⟩
  · refine Target.accessorBody_eq_ok.mpr ⟨13, ?_, rfl⟩
    rw [memberRef_eq_addFieldRef]
    exact addFieldRef_named hlength
  · have hinfo : (plainBody 1 1 [.localVar Opcode.aload 0, .field Opcode.getField 13,
        .returnOf (.ofPrimitive .int)]).encode .empty = (.ok (asking 0xB4 13), .empty) := rfl
    refine ClassEdit.setCode_eq_ok.mpr ⟨_, rfl, asking 0xB4 13, poolOfNamed name, ?_, .inr ⟨rfl, 14, _, ?_, rfl⟩⟩
    · exact encode_plain hinfo _
    · exact ConstantPool.add_of_notMem (n := 14) (code_notMem hlength) rfl rfl (by decide)

/-- The weaving passes over the field, which the class does not declare, and reads it all the same. -/
theorem apply_named : (ofTargets [.field (readNamed name hname)]).apply keeper = (.ok (), keeperOfNamed name) := by
  have hopen : (AccessStep.openField (readNamed name hname).field).run keeper = (.ok (), keeper) := by
    have hnone : keeper.findField? (readNamed name hname).field.name (readNamed name hname).field.descriptor = none :=
      findField?_named hlength
    rw [AccessStep.run_openField, AccessStep.change?, hnone]
    rfl
  refine apply_eq_ok.mpr ⟨keeperType, rfl, keeperOfNamed name, ?_, keeperType, rfl, rfl⟩
  exact Edits.forM_cons_eq_ok.mpr ⟨_, hopen, Edits.forM_cons_eq_ok.mpr ⟨_, install_named hname hlength, rfl⟩⟩

/-- The name is read back as an empty text, and its first letter is no tag. -/
theorem named_not_read {rest : List UInt8} (hletter : ModifiedUtf8.encode name = 97 :: rest) (d : ClassFile) :
    ClassFile.ofBytes (keeperOfNamed name).toBytes ≠ .ok d := by
  intro h
  obtain ⟨p, tail, hpool⟩ := ClassFile.pool_of_ofBytes_toBytes h
  have hslots : (keeperOfNamed name).pool.slots.toList = keeper.pool.slots.toList ++
      .utf8 (.ofText name) :: [.nameAndType 11 4, .fieldRef 1 12, .utf8 (.ofText "Code")] := rfl
  have hraw : (Utf8Constant.ofText name).raw = 97 :: rest := hletter
  -- of 65536 the length keeps nothing, so the next constant should begin with the letter
  have hcut (more : List UInt8) : ∃ e, ConstantPool.decode (count16 15 ++
      (keeper.pool.slots.toList.flatMap Constant.toBytes ++ (1 :: (count16 65536 ++ 97 :: rest) ++ more))) = .error e :=
    ⟨_, rfl⟩
  rw [hletter] at hlength
  rw [ConstantPool.toBytes, hslots, List.flatMap_append, List.flatMap_cons, Constant.toBytes, hraw,
    hlength, List.append_assoc, List.append_assoc, List.append_assoc] at hpool
  obtain ⟨e, he⟩ := hcut _
  cases hpool.symm.trans he

end

/-- A run of letters may be the name of a field. -/
theorem letters_ok {n : Nat} (h : 0 < n) : isMemberName (letters n) = true ∧ (letters n).toList.head? ≠ some '<' := by
  obtain ⟨n, rfl⟩ := Nat.exists_eq_add_of_lt h
  have hletter : isMemberChar 'a' = true := by decide
  have hchars : (letters (0 + n + 1)).toList = 'a' :: List.replicate (0 + n) 'a' := String.toList_ofList
  constructor
  · rw [isMemberName, hchars, List.all_cons, List.all_replicate, hletter]
    simp
  · rw [hchars, List.head?_cons]
    decide

/-- The field of `A` whose name has 65536 letters, read by `get`. -/
def readLetters : Access :=
  ofTargets [.field (readNamed (letters 65536) (letters_ok (by decide)))]

/-- **With a name of 65536 letters the second time fails over what was written**, although it changes nothing in memory.
The name is too long to be written, so that the bytes are those of no class. -/
theorem readLetters_not_again :
    keeper.NamesResolve ∧ ∃ c', readLetters.apply keeper = (.ok (), c') ∧ readLetters.apply c' = (.ok (), c') ∧
      Pass.rewrite ⟨"access", (Prefab.access readLetters).apply⟩ "A" keeper.toBytes = .ok c'.toBytes ∧
        ∀ bytes, Pass.rewrite ⟨"access", (Prefab.access readLetters).apply⟩ "A" c'.toBytes ≠ .ok bytes := by
  have hlength := length_encode_letters 65536
  have happly : readLetters.apply keeper = (.ok (), keeperOfNamed (letters 65536)) := apply_named _ hlength
  have hread : ClassFile.ofBytes keeper.toBytes = .ok keeper := rfl
  refine ⟨keeper_namesResolve, _, happly, apply_of_apply keeper_namesResolve (by decide) happly,
    Pass.rewrite_eq_ok.mpr ⟨keeper, hread, _, happly, rfl⟩, fun bytes h => ?_⟩
  obtain ⟨d, hd, -⟩ := Pass.rewrite_eq_ok.mp h
  exact named_not_read hlength ((encode_letters _).trans List.replicate_succ) d hd

end Access

end ClassWeaver
