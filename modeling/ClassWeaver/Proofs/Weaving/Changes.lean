import ClassWeaver.Proofs.ClassFile.AccessBits
import ClassWeaver.Proofs.ClassFile.ClassEdits
import ClassWeaver.Proofs.Weaving.AccessorBodies

/-!
# Changes of members

Over a pool that has all constants, the weaving makes changes of members and nothing else: it opens a member, or gives a
method the body of an accessor. Of the changes that a member sees only two things count, whether one of them opens it and
whose body is the last; so to make a list of changes twice is to make it once.

## Contents

* `MemberChange.apply`, `Change.apply`, `applyAll` — a change of a member, of a class, and changes in a row.
* `Member.changed`, `foldl_apply` — what a list of changes makes of a member.
* `getElem?_fields_applyAll`, `getElem?_methods_applyAll` — the members of a class after a list of changes.
* `findField?_applyAll`, `findMethod?_applyAll` — members are found where they were.
* `applyAll_applyAll` — a list of changes that is made twice.
-/

namespace ClassWeaver

/-! ## A member -/

/-- A change of a member. -/
inductive MemberChange
  | widen
  | fill (t : Target)
  deriving DecidableEq

namespace Member

variable {m : Member}

theorem widened_widened (m : Member) : m.widened.widened = m.widened :=
  congrArg (fun access => { m with access }) (AccessFlags.widened_widened _)

theorem withBody_withBody (m : Member) : m.withBody.withBody = m.withBody := by
  refine congrArg (fun access => { m with access }) ?_
  show (((m.access.without _).without _).without _).without _ = _
  rw [AccessFlags.without_comm (m.access.without _), AccessFlags.without_without, AccessFlags.without_without]

theorem withBody_widened (m : Member) : m.widened.withBody = m.withBody.widened := by
  refine congrArg (fun access => { m with access }) ?_
  show (m.access.widened.without _).without _ = ((m.access.without _).without _).widened
  rw [AccessFlags.widened_without (by decide), AccessFlags.widened_without (by decide)]

theorem withCode_widened (m : Member) (p : ConstantPool) (info : List UInt8) :
    m.widened.withCode p info = (m.withCode p info).widened := by
  rw [widened, withCode_access, widened, withCode_eq]

theorem withCode_withBody (m : Member) (p : ConstantPool) (info : List UInt8) :
    m.withBody.withCode p info = (m.withCode p info).withBody := by
  rw [withBody, withCode_access, withBody, withCode_eq]

theorem isStatic_widened (m : Member) : m.widened.isStatic = m.isStatic :=
  AccessFlags.contains_widened (by decide) (by decide)

theorem isStatic_withBody (m : Member) : m.withBody.isStatic = m.isStatic :=
  (AccessFlags.contains_without (by decide)).trans (AccessFlags.contains_without (by decide))

end Member

namespace MemberChange

variable {p : ConstantPool} {m : Member} {k : MemberChange} {ks : List MemberChange}

/-- The changed member. -/
def apply (p : ConstantPool) : MemberChange → Member → Member
  | widen, m => m.widened
  | fill t, m => m.withBody.withCode p (t.payload p)

/-- The target whose accessor gets its body. -/
def target? : MemberChange → Option Target
  | widen => none
  | fill t => some t

/-- The target whose accessor gets its body last. -/
def lastTarget? (ks : List MemberChange) : Option Target :=
  (ks.filterMap target?).getLast?

end MemberChange

namespace Member

variable {p : ConstantPool} {m : Member} {t : Target} {opened : Bool} {last? : Option Target}

/-- The member with the body of the target's accessor, if there is a target. -/
def filled (p : ConstantPool) : Option Target → Member → Member
  | none, m => m
  | some t, m => m.withBody.withCode p (t.payload p)

/-- The member with the body of the target's accessor, and opened or not. -/
def changed (p : ConstantPool) (opened : Bool) (last? : Option Target) (m : Member) : Member :=
  if opened then (m.filled p last?).widened else m.filled p last?

theorem filled_widened : m.widened.filled p last? = (m.filled p last?).widened := by
  cases last? with
  | none => rfl
  | some t =>
    show m.widened.withBody.withCode p _ = (m.withBody.withCode p _).widened
    rw [withBody_widened, withCode_widened]

/-- A body is given up for a later one. -/
theorem filled_filled (h : m.CodeReady p) : (m.filled p (some t)).filled p last? = m.filled p (some (last?.getD t)) := by
  cases last? with
  | none => rfl
  | some t' =>
    have hready : m.withBody.CodeReady p := h
    show (m.withBody.withCode p _).withBody.withCode p _ = m.withBody.withCode p _
    rw [← withCode_withBody, withBody_withBody, withCode_withCode hready]
    rfl

theorem changed_widened : m.widened.changed p opened last? = m.changed p true last? := by
  rw [changed, changed, filled_widened, widened_widened, if_pos rfl, ite_self]

theorem changed_filled (h : m.CodeReady p) :
    (m.filled p (some t)).changed p opened last? = m.changed p opened (some (last?.getD t)) := by
  rw [changed, changed, filled_filled h]

theorem CodeReady.filled (h : m.CodeReady p) : (m.filled p last?).CodeReady p := by
  cases last? with
  | none => exact h
  | some t => exact CodeReady.withCode (m := m.withBody) h

end Member

namespace MemberChange

variable {p : ConstantPool} {m : Member} {k : MemberChange} {ks : List MemberChange}

theorem apply_widen : apply p widen m = m.widened :=
  rfl

theorem apply_fill (t : Target) : apply p (fill t) m = m.filled p (some t) :=
  rfl

theorem lastTarget?_widen (ks : List MemberChange) : lastTarget? (widen :: ks) = lastTarget? ks :=
  rfl

theorem lastTarget?_fill (t : Target) (ks : List MemberChange) :
    lastTarget? (fill t :: ks) = some ((lastTarget? ks).getD t) :=
  List.getLast?_cons

/-- The target is one of those whose accessors get their bodies. -/
theorem mem_of_lastTarget? {t : Target} (h : lastTarget? ks = some t) : fill t ∈ ks := by
  obtain ⟨k, hk, hkt⟩ := List.mem_filterMap.mp (List.mem_of_getLast? h)
  cases k with
  | widen => cases hkt
  | fill t' =>
    cases hkt
    exact hk

theorem lastTarget?_twice (ks : List MemberChange) : lastTarget? (ks ++ ks) = lastTarget? ks := by
  rw [lastTarget?, lastTarget?, List.filterMap_append, List.getLast?_append, Option.or_self]

theorem codeReady_apply (h : m.CodeReady p) (k : MemberChange) : (k.apply p m).CodeReady p := by
  cases k with
  | widen => exact h
  | fill t =>
    rw [apply_fill]
    exact h.filled

/-- **Of a list of changes two things count**: whether one of them opens the member, and whose body is the last. -/
theorem foldl_apply (h : (lastTarget? ks).isSome → m.CodeReady p) :
    ks.foldl (fun m k => k.apply p m) m = m.changed p (ks.contains widen) (lastTarget? ks) := by
  -- the first change comes before all that the hypothesis sums up, so it has to be pulled out of `changed`: opening
  -- commutes with everything, and a body is covered by one that is given later
  induction ks generalizing m with
  | nil => rfl
  | cons k ks ih =>
    rw [List.foldl_cons, List.contains_cons]
    cases k with
    | widen =>
      rw [lastTarget?_widen] at h ⊢
      rw [ih fun hsome => codeReady_apply (h hsome) _, apply_widen, Member.changed_widened, beq_self_eq_true, Bool.true_or]
    | fill t =>
      rw [lastTarget?_fill] at h ⊢
      have hready : m.CodeReady p := h rfl
      have hother : (widen == fill t) = false := beq_false_of_ne nofun
      rw [ih fun _ => codeReady_apply hready _, apply_fill, Member.changed_filled hready, hother, Bool.false_or]

/-- A change keeps the names of the member and what it is static. -/
theorem apply_keeps (p : ConstantPool) (k : MemberChange) (m : Member) :
    (k.apply p m).nameIndex = m.nameIndex ∧ (k.apply p m).descriptorIndex = m.descriptorIndex ∧
      (k.apply p m).isStatic = m.isStatic := by
  cases k with
  | widen => exact ⟨rfl, rfl, m.isStatic_widened⟩
  | fill t =>
    rw [apply_fill, Member.filled, Member.withCode_eq]
    exact ⟨rfl, rfl, m.isStatic_withBody⟩

end MemberChange

/-! ## A class -/

/-- A change of a class: it opens a field, or changes a method. -/
inductive Change
  | field (index : Nat)
  | method (index : Nat) (change : MemberChange)
  deriving DecidableEq

namespace Change

variable {c : ClassFile} {k : Change} {ks : List Change} {i : Nat}

/-- The changed class. -/
def apply : Change → ClassFile → ClassFile
  | field i, c => { c with fields := c.fields.modify i Member.widened }
  | method i k, c => { c with methods := c.methods.modify i (k.apply c.pool) }

/-- The class after a list of changes. -/
def applyAll (ks : List Change) (c : ClassFile) : ClassFile :=
  ks.foldl (fun c k => k.apply c) c

/-- What the method at a position sees of a list of changes. -/
def ofMethod (i : Nat) (ks : List Change) : List MemberChange :=
  ks.filterMap fun
    | field _ => none
    | method j k => if j = i then some k else none

theorem mem_ofMethod {k : MemberChange} : k ∈ ofMethod i ks ↔ method i k ∈ ks := by
  rw [ofMethod, List.mem_filterMap]
  constructor
  · rintro ⟨change, hchange, h⟩
    cases change with
    | field => cases h
    | method j k' =>
      change (if j = i then some k' else none) = some k at h
      obtain ⟨rfl, hk⟩ := Option.ite_none_right_eq_some.mp h
      exact Option.some.inj hk ▸ hchange
  · exact fun h => ⟨method i k, h, if_pos rfl⟩

/-- **Nothing but members changes.** -/
theorem applyAll_eq (ks : List Change) (c : ClassFile) :
    applyAll ks c = { c with fields := (applyAll ks c).fields, methods := (applyAll ks c).methods } := by
  induction ks generalizing c with
  | nil => rfl
  | cons k ks ih =>
    rw [applyAll, List.foldl_cons, ← applyAll, ih]
    cases k with
    | field => rfl
    | method => rfl

theorem length_applyAll (ks : List Change) (c : ClassFile) :
    (applyAll ks c).fields.length = c.fields.length ∧ (applyAll ks c).methods.length = c.methods.length := by
  induction ks generalizing c with
  | nil => exact ⟨rfl, rfl⟩
  | cons k ks ih =>
    obtain ⟨hfields, hmethods⟩ := ih (k.apply c)
    cases k with
    | field i => exact ⟨hfields.trans (List.length_modify _ _ _), hmethods⟩
    | method i k => exact ⟨hfields, hmethods.trans (List.length_modify _ _ _)⟩

theorem getElem?_fields_applyAll (ks : List Change) (c : ClassFile) (i : Nat) :
    (applyAll ks c).fields[i]? = c.fields[i]?.map fun m => if ks.contains (field i) then m.widened else m := by
  induction ks generalizing c with
  | nil => exact Option.map_id_apply.symm
  | cons k ks ih =>
    rw [applyAll, List.foldl_cons, ← applyAll, ih, List.contains_cons]
    cases k with
    | field j =>
      show ((c.fields.modify j Member.widened)[i]?).map _ = _
      rw [List.getElem?_modify, Option.map_eq_map, Option.map_map]
      refine congrArg (Option.map · _) (funext fun m => ?_)
      dsimp only [Function.comp]
      by_cases hj : j = i
      · subst hj
        rw [if_pos rfl, beq_self_eq_true, Bool.true_or, if_pos rfl, Member.widened_widened, ite_self]
      · rw [if_neg hj, beq_false_of_ne fun heq => hj (Change.field.inj heq).symm, Bool.false_or]
    | method j k =>
      have hother : (field i == method j k) = false := beq_false_of_ne nofun
      rw [hother, Bool.false_or]
      rfl

theorem ofMethod_self (i : Nat) (k : MemberChange) (ks : List Change) : ofMethod i (method i k :: ks) = k :: ofMethod i ks :=
  List.filterMap_cons_some (if_pos rfl)

theorem ofMethod_of_ne {j : Nat} (h : j ≠ i) (k : MemberChange) (ks : List Change) :
    ofMethod i (method j k :: ks) = ofMethod i ks :=
  List.filterMap_cons_none (if_neg h)

theorem getElem?_methods_applyAll (ks : List Change) (c : ClassFile) (i : Nat) :
    (applyAll ks c).methods[i]? = c.methods[i]?.map ((ofMethod i ks).foldl fun m k => k.apply c.pool m) := by
  induction ks generalizing c with
  | nil => exact Option.map_id_apply.symm
  | cons k ks ih =>
    rw [applyAll, List.foldl_cons, ← applyAll, ih]
    cases k with
    | field j => rfl
    | method j k =>
      show ((c.methods.modify j (k.apply c.pool))[i]?).map _ = _
      rw [List.getElem?_modify, Option.map_eq_map, Option.map_map]
      refine congrArg (Option.map · _) (funext fun m => ?_)
      dsimp only [Function.comp]
      by_cases hj : j = i
      · subst hj
        rw [if_pos rfl, ofMethod_self, List.foldl_cons]
        rfl
      · rw [if_neg hj, ofMethod_of_ne hj]
        rfl

/-! ### Names -/

/-- Members are found where they were. -/
theorem findMember?_apply (k : Change) (c : ClassFile) (name descriptor : String) :
    (k.apply c).findField? name descriptor = c.findField? name descriptor ∧
      (k.apply c).findMethod? name descriptor = c.findMethod? name descriptor := by
  cases k with
  | field i =>
    refine ⟨?_, rfl⟩
    show (c.fields.modify i Member.widened).findIdx? _ = c.fields.findIdx? _
    refine findIdx?_modify fun m => ?_
    rfl
  | method i k =>
    refine ⟨rfl, ?_⟩
    show (c.methods.modify i _).findIdx? _ = c.methods.findIdx? _
    refine findIdx?_modify fun m => ?_
    obtain ⟨hname, hdescriptor, -⟩ := MemberChange.apply_keeps c.pool k m
    rw [hname, hdescriptor]

/-- The change can be made without an addition to the pool. -/
def Ready (c : ClassFile) : Change → Prop
  | method i (.fill _) => ∀ m, c.methods[i]? = some m → m.CodeReady c.pool
  | _ => True

theorem pool_apply (k : Change) (c : ClassFile) : (k.apply c).pool = c.pool := by
  cases k with
  | field => rfl
  | method => rfl

/-- The method at a position after a change: as static as it was, and as ready for a body. -/
theorem getElem?_methods_apply (k : Change) (c : ClassFile) (i : Nat) : ∃ change : Member → Member,
    (k.apply c).methods[i]? = c.methods[i]?.map change ∧ ∀ m, (change m).isStatic = m.isStatic ∧
      (m.CodeReady c.pool → (change m).CodeReady c.pool) ∧
        (k.Ready c → c.methods[i]? = some m → (change m).CodeReady c.pool → m.CodeReady c.pool) := by
  cases k with
  | field j => exact ⟨id, Option.map_id_apply.symm, fun m => ⟨rfl, id, fun _ _ => id⟩⟩
  | method j k =>
    refine ⟨fun m => if j = i then k.apply c.pool m else m, List.getElem?_modify _ _ _ _, fun m => ?_⟩
    dsimp only
    by_cases hj : j = i
    · subst hj
      rw [if_pos rfl]
      refine ⟨(MemberChange.apply_keeps _ k m).2.2, fun hm => MemberChange.codeReady_apply hm k, fun hready hm hchanged => ?_⟩
      cases k with
      | widen => exact hchanged
      | fill t => exact hready m hm
    · rw [if_neg hj]
      exact ⟨rfl, id, fun _ _ => id⟩

theorem Ready.apply {other : Change} (h : k.Ready c) : k.Ready (other.apply c) := by
  cases k with
  | field => trivial
  | method i k =>
    cases k with
    | widen => trivial
    | fill t =>
      intro m' hm'
      obtain ⟨change, hchange, hkeeps⟩ := getElem?_methods_apply other c i
      rw [hchange] at hm'
      obtain ⟨m, hm, rfl⟩ := Option.map_eq_some_iff.mp hm'
      rw [pool_apply]
      exact (hkeeps m).2.1 (h m hm)

/-- Names go on being texts of the pool. -/
theorem namesResolve_apply (hnames : c.NamesResolve) (hready : k.Ready c) : (k.apply c).NamesResolve := by
  obtain ⟨hfields, hmethods⟩ := hnames
  cases k with
  | field i =>
    refine ⟨forall_mem_modify hfields fun m hm => ?_, hmethods⟩
    obtain ⟨hname, hdescriptor, hattributes⟩ := hfields m (List.mem_of_getElem? hm)
    exact ⟨hname, hdescriptor, hattributes⟩
  | method i k =>
    refine ⟨hfields, forall_mem_modify hmethods fun m hm => ?_⟩
    obtain ⟨hname, hdescriptor, hattributes⟩ := hmethods m (List.mem_of_getElem? hm)
    cases k with
    | widen => exact ⟨hname, hdescriptor, hattributes⟩
    | fill t =>
      have hbody : m.withBody.NamesResolve c.pool := ⟨hname, hdescriptor, hattributes⟩
      exact hbody.withCode (hready m hm)

/-- **What a list of changes makes of the methods.** -/
theorem getElem?_methods_of_ready (h : ∀ k ∈ ks, k.Ready c) (i : Nat) : (applyAll ks c).methods[i]? =
    c.methods[i]?.map (Member.changed c.pool ((ofMethod i ks).contains .widen) (MemberChange.lastTarget? (ofMethod i ks))) := by
  rw [getElem?_methods_applyAll]
  cases hm : c.methods[i]? with
  | none => rfl
  | some m =>
    refine congrArg some (MemberChange.foldl_apply fun hsome => ?_)
    obtain ⟨t, ht⟩ := Option.isSome_iff_exists.mp hsome
    exact h _ (mem_ofMethod.mp (MemberChange.mem_of_lastTarget? ht)) m hm

/-- **To make a list of changes twice is to make it once.** -/
theorem applyAll_applyAll (h : ∀ k ∈ ks, k.Ready c) : applyAll ks (applyAll ks c) = applyAll ks c := by
  -- twice is the list behind itself: it opens the same members, and the last body is the same
  have htwice : ∀ k ∈ ks ++ ks, k.Ready c := List.forall_mem_append.mpr ⟨h, h⟩
  have hfields : (applyAll (ks ++ ks) c).fields = (applyAll ks c).fields := by
    refine List.ext_getElem? fun i => ?_
    rw [getElem?_fields_applyAll, getElem?_fields_applyAll, List.contains_append, Bool.or_self]
  have hmethods : (applyAll (ks ++ ks) c).methods = (applyAll ks c).methods := by
    refine List.ext_getElem? fun i => ?_
    rw [getElem?_methods_of_ready htwice, getElem?_methods_of_ready h, ofMethod, List.filterMap_append, ← ofMethod,
      List.contains_append, Bool.or_self, MemberChange.lastTarget?_twice]
  calc applyAll ks (applyAll ks c)
    _ = applyAll (ks ++ ks) c := List.foldl_append.symm
    _ = { c with fields := (applyAll ks c).fields, methods := (applyAll ks c).methods } := by
      rw [applyAll_eq, hfields, hmethods]
    _ = applyAll ks c := (applyAll_eq ks c).symm

end Change

end ClassWeaver
