import ClassWeaver.Proofs.Weaving.Changes
import ClassWeaver.Proofs.Weaving.Steps

/-!
# The weaving of access, step by step

For each target that a class owns or hosts the accessor of, the weaving takes a step: it opens a member, or gives an
accessor its body. The step finds its member by name and makes at most one change, and it leaves a pool over which it adds
nothing more. So a run of steps is the list of their changes, made over the pool that the run leaves.

## Contents

* `AccessStep`, `change?`, `Settled` — a step, its change, and pools that it does not add to.
* `run_of_settled`, `Settles`, `settled_of_run` — what a step does over such a pool, and that it leaves one.
* `run_all_of_settled`, `settled_of_run_all` — the same of steps in a row.
* `Access.steps`, `apply_eq_ok` — the steps of the weaving.
-/

namespace ClassWeaver

open Identity

/-! ## One step -/

/-- What the weaving does for a target in one of its roles. -/
inductive AccessStep
  | openField (f : FieldDescriptor)
  | openMethod (m : MethodDescriptor)
  | install (t : Target)

namespace AccessStep

variable {c c' : ClassFile} {s : AccessStep} {ss : List AccessStep}

/-- The step as a weaving. -/
def run : AccessStep → Weaving Unit
  | openField f => Weaving.widenField f
  | openMethod m => Weaving.widenMethod m
  | install t => Weaving.installAccessor t.accessor t.accessorBody

/-- The change that the step makes, if the class declares the member. -/
def change? (c : ClassFile) : AccessStep → Option Change
  | openField f => (c.findField? f.name f.descriptor).map .field
  | openMethod m => (c.findMethod? m.name m.descriptor).map (.method · .widen)
  | install t => (c.findMethod? t.accessor.name t.accessor.descriptor).map (.method · (.fill t))

/-- The class admits the step, and its pool has all that the step asks for. -/
def Settled (c : ClassFile) : AccessStep → Prop
  | install t => ∀ i, c.findMethod? t.accessor.name t.accessor.descriptor = some i → t.Complete c.pool ∧
      ∃ m, c.methods[i]? = some m ∧ m.isStatic = t.accessor.isStatic ∧ m.CodeReady c.pool
  | _ => True

theorem installAccessor_eq_ok {a : MethodDescriptor} {addition : ConstantPool.Addition MethodBody} {i : Nat}
    (hi : c.findMethod? a.name a.descriptor = some i) : Weaving.installAccessor a addition c = (.ok (), c') ↔
      ∃ m, c.methods[i]? = some m ∧ m.isStatic = a.isStatic ∧ ∃ body pool, addition c.pool = (.ok body, pool) ∧
        ClassEdit.setCode i body { c with pool, methods := c.methods.modify i Member.withBody } = (.ok (), c') := by
  obtain ⟨-, m, -, -, hm, -⟩ := split_of_findIdx? hi
  rw [Weaving.installAccessor, Edits.get_bind, hi]
  dsimp only
  rw [hm, Option.any_some]
  by_cases hstatic : m.isStatic = a.isStatic
  · rw [if_neg (by rw [hstatic, bne_self_eq_false]; exact Bool.false_ne_true)]
    constructor
    · intro h
      obtain ⟨body, u, hbody, h⟩ := Edits.bind_eq_ok.mp h
      obtain ⟨pool, hpool, rfl⟩ := Weaving.ofAddition_eq_ok.mp hbody
      obtain ⟨_, v, hmodify, h⟩ := Edits.bind_eq_ok.mp h
      cases hmodify
      exact ⟨m, rfl, hstatic, body, pool, hpool, Weaving.ofEdit_eq_ok.mp h⟩
    · rintro ⟨-, -, -, body, pool, hpool, h⟩
      refine Edits.bind_eq_ok.mpr ⟨body, { c with pool }, Weaving.ofAddition_eq_ok.mpr ⟨pool, hpool, rfl⟩, ?_⟩
      exact Edits.bind_eq_ok.mpr ⟨(), _, rfl, Weaving.ofEdit_eq_ok.mpr h⟩
  · rw [if_pos (bne_iff_ne.mpr hstatic)]
    refine iff_of_false nofun ?_
    rintro ⟨m', hm', hstatic', -⟩
    cases hm'
    exact hstatic hstatic'

theorem run_openField (f : FieldDescriptor) (c : ClassFile) :
    (openField f).run c = (.ok (), ((openField f).change? c).elim c (·.apply c)) := by
  show (Except.ok (), _) = _
  beta_reduce
  rw [change?]
  cases c.findField? f.name f.descriptor with
  | none => rfl
  | some i => rfl

theorem run_openMethod (m : MethodDescriptor) (c : ClassFile) :
    (openMethod m).run c = (.ok (), ((openMethod m).change? c).elim c (·.apply c)) := by
  show (Except.ok (), _) = _
  beta_reduce
  rw [change?]
  cases c.findMethod? m.name m.descriptor with
  | none => rfl
  | some i => rfl

/-- **Over a settled pool a step is its change.** -/
theorem run_of_settled (h : s.Settled c) : s.run c = (.ok (), (s.change? c).elim c (·.apply c)) := by
  cases s with
  | openField f => exact run_openField f c
  | openMethod m => exact run_openMethod m c
  | install t =>
    rw [change?]
    cases hi : c.findMethod? t.accessor.name t.accessor.descriptor with
    | none =>
      rw [run, Weaving.installAccessor, Edits.get_bind, hi]
      rfl
    | some i =>
      obtain ⟨⟨body, hbody, hinfo⟩, m, hm, hstatic, hready⟩ := h i hi
      refine (installAccessor_eq_ok hi).mpr ⟨m, hm, hstatic, body, c.pool, hbody, ?_⟩
      have hm' : (c.methods.modify i Member.withBody)[i]? = some m.withBody := by
        rw [List.getElem?_modify_eq, hm]
        rfl
      have hset := ClassEdit.setCode_of_ready (c := { c with methods := c.methods.modify i Member.withBody }) hm' hready hinfo
      dsimp only at hset
      rw [List.modify_modify_eq] at hset
      exact hset

/-- A larger pool changes nothing of what a step finds. -/
theorem change?_withPool (hnames : c.NamesResolve) {p : ConstantPool} (hp : c.pool.Extends p) (s : AccessStep) :
    s.change? (c.withPool p) = s.change? c := by
  cases s with
  | openField f => exact congrArg (Option.map _) (hnames.findField?_eq hp _ _)
  | openMethod m => exact congrArg (Option.map _) (hnames.findMethod?_eq hp _ _)
  | install t => exact congrArg (Option.map _) (hnames.findMethod?_eq hp _ _)

/-- The step from one class to another leaves a pool that is settled for it, and so is every larger one. -/
def Settles (s : AccessStep) (c c' : ClassFile) : Prop :=
  c.pool.Extends c'.pool ∧ c'.pool.count ≤ 65536 ∧ ∀ p, c'.pool.Extends p → p.count ≤ 65536 →
    s.Settled (c.withPool p) ∧
      c'.withPool p = (s.change? (c.withPool p)).elim (c.withPool p) (·.apply (c.withPool p))

/-- A step that does not look at the pool. -/
theorem settles_of_change (hnames : c.NamesResolve) (hcount : c.pool.count ≤ 65536)
    (hsettled : ∀ p, c.pool.Extends p → s.Settled (c.withPool p))
    (happly : ∀ k, s.change? c = some k → ∀ p, (k.apply c).withPool p = k.apply (c.withPool p)) :
    s.Settles c ((s.change? c).elim c (·.apply c)) := by
  have hpool : ((s.change? c).elim c (·.apply c)).pool = c.pool := by
    cases s.change? c with
    | none => rfl
    | some k => exact k.pool_apply c
  rw [Settles, hpool]
  refine ⟨.refl _, hcount, fun p hp _ => ⟨hsettled p hp, ?_⟩⟩
  rw [change?_withPool hnames hp]
  cases hk : s.change? c with
  | none => rfl
  | some k => exact happly k hk p

/-- An accessor that is declared gets its body. -/
theorem settles_of_install {t : Target} {i : Nat} (hnames : c.NamesResolve)
    (hcount : c.pool.count ≤ 65536) (hi : c.findMethod? t.accessor.name t.accessor.descriptor = some i)
    (h : (install t).run c = (.ok (), c')) : (install t).Settles c c' := by
  obtain ⟨m, hm, hstatic, body, pool, hbody, hset⟩ := (installAccessor_eq_ok hi).mp h
  have hstable := t.stable_accessorBody
  have hpool := hstable.appends hbody
  have hpoolCount := hstable.count_le hbody
  have hmembers : ∀ m ∈ c.methods.modify i Member.withBody, m.NamesResolve pool := by
    refine forall_mem_modify (fun m hm => (hnames.methods m hm).of_extends hpool) fun m hm => ?_
    obtain ⟨hname, hdescriptor, hattributes⟩ := (hnames.methods m (List.mem_of_getElem? hm)).of_extends hpool
    exact ⟨hname, hdescriptor, hattributes⟩
  obtain ⟨hextends, hcount', m', info, hm', hover⟩ := ClassEdit.setCode_settled hmembers (by dsimp only; omega) hset
  obtain rfl : m.withBody = m' := by
    dsimp only at hm'
    rw [List.getElem?_modify_eq, hm] at hm'
    exact Option.some.inj hm'
  -- over a larger pool the reference is found again, so the body is the one that was built here
  refine ⟨hpool.of_extends hextends, hcount', fun p hp hpCount => ?_⟩
  obtain ⟨hencode, hready, heq⟩ := hover p hp hpCount
  have hbody' := hstable.again hbody (hextends.of_extends hp)
  have hpayload := t.payload_eq hbody' hencode
  have hlarger := hpool.of_extends (hextends.of_extends hp)
  refine ⟨?_, ?_⟩
  · intro j hj
    rw [hnames.findMethod?_eq hlarger, hi] at hj
    cases hj
    exact ⟨⟨body, hbody', hpayload ▸ hencode⟩, m, hm, hstatic, hready⟩
  · rw [heq, change?_withPool hnames hlarger, change?, hi, List.modify_modify_eq, ← hpayload]
    rfl

/-- **A step leaves a pool that is settled for it.** -/
theorem settled_of_run (hnames : c.NamesResolve) (hcount : c.pool.count ≤ 65536) (h : s.run c = (.ok (), c')) :
    s.Settles c c' := by
  cases s with
  | openField f =>
    obtain rfl : _ = c' := congrArg Prod.snd ((run_openField f c).symm.trans h)
    refine settles_of_change hnames hcount (fun _ _ => trivial) fun k hk p => ?_
    obtain ⟨i, -, rfl⟩ := Option.map_eq_some_iff.mp hk
    rfl
  | openMethod m =>
    obtain rfl : _ = c' := congrArg Prod.snd ((run_openMethod m c).symm.trans h)
    refine settles_of_change hnames hcount (fun _ _ => trivial) fun k hk p => ?_
    obtain ⟨i, -, rfl⟩ := Option.map_eq_some_iff.mp hk
    rfl
  | install t =>
    cases hi : c.findMethod? t.accessor.name t.accessor.descriptor with
    | some i => exact settles_of_install hnames hcount hi h
    | none =>
      have hnone : (install t).change? c = none := by
        rw [change?, hi]
        rfl
      have hsettled : ∀ p, c.pool.Extends p → (install t).Settled (c.withPool p) := by
        intro p hp i hi'
        rw [hnames.findMethod?_eq hp, hi] at hi'
        cases hi'
      have hkept := settles_of_change hnames hcount hsettled fun k hk => by
        rw [hnone] at hk
        cases hk
      rw [run, Weaving.installAccessor, Edits.get_bind, hi] at h
      cases h
      rwa [hnone] at hkept

theorem Settled.ready {k : Change} (h : s.Settled c) (hk : s.change? c = some k) : k.Ready c := by
  cases s with
  | openField f =>
    obtain ⟨i, -, rfl⟩ := Option.map_eq_some_iff.mp hk
    trivial
  | openMethod m =>
    obtain ⟨i, -, rfl⟩ := Option.map_eq_some_iff.mp hk
    trivial
  | install t =>
    obtain ⟨i, hi, rfl⟩ := Option.map_eq_some_iff.mp hk
    obtain ⟨-, m, hm, -, hready⟩ := h i hi
    intro m' hm'
    rw [hm] at hm'
    exact Option.some.inj hm' ▸ hready

/-- After a step, names are texts of the pool that it leaves. -/
theorem namesResolve_of_run (hnames : c.NamesResolve) (hcount : c.pool.count ≤ 65536) (h : s.run c = (.ok (), c')) :
    c'.NamesResolve := by
  obtain ⟨hextends, hcount', hover⟩ := settled_of_run hnames hcount h
  obtain ⟨hs, hchange⟩ := hover c'.pool (.refl _) hcount'
  have hnames' := hnames.withPool hextends
  show (c'.withPool c'.pool).NamesResolve
  rw [hchange]
  cases hk : s.change? (c.withPool c'.pool) with
  | none => exact hnames'
  | some k => exact Change.namesResolve_apply hnames' (hs.ready hk)

/-! ## Steps in a row -/

/-- A change that adds nothing makes no difference to what is settled. -/
theorem settled_apply {k : Change} (hready : k.Ready c) : s.Settled (k.apply c) ↔ s.Settled c := by
  cases s with
  | openField f => exact Iff.rfl
  | openMethod m => exact Iff.rfl
  | install t =>
    rw [Settled, Settled, (Change.findMember?_apply k c _ _).2, Change.pool_apply]
    refine forall₂_congr fun i _ => and_congr_right fun _ => ?_
    obtain ⟨change, hchange, hkeeps⟩ := Change.getElem?_methods_apply k c i
    rw [hchange]
    constructor
    · rintro ⟨m', hm', hstatic, hcode⟩
      obtain ⟨m, hm, rfl⟩ := Option.map_eq_some_iff.mp hm'
      obtain ⟨hsame, -, hback⟩ := hkeeps m
      exact ⟨m, hm, hsame.symm.trans hstatic, hback hready hm hcode⟩
    · rintro ⟨m, hm, hstatic, hcode⟩
      obtain ⟨hsame, hforth, -⟩ := hkeeps m
      exact ⟨change m, Option.map_eq_some_iff.mpr ⟨m, hm, rfl⟩, hsame.trans hstatic, hforth hcode⟩

theorem change?_apply (s : AccessStep) (k : Change) (c : ClassFile) : s.change? (k.apply c) = s.change? c := by
  cases s with
  | openField f => exact congrArg (Option.map _) (k.findMember?_apply c _ _).1
  | openMethod m => exact congrArg (Option.map _) (k.findMember?_apply c _ _).2
  | install t => exact congrArg (Option.map _) (k.findMember?_apply c _ _).2

/-- The changes of steps in a row. -/
def changes (ss : List AccessStep) (c : ClassFile) : List Change :=
  ss.filterMap (·.change? c)

/-- The changes are the same over a settled pool, one of them after the other or all of them from the start. -/
theorem changes_apply (ss : List AccessStep) (k : Change) (c : ClassFile) : changes ss (k.apply c) = changes ss c :=
  List.filterMap_congr fun s _ => s.change?_apply k c

/-- **Over a settled pool steps in a row are their changes.** -/
theorem run_all_of_settled (h : ∀ s ∈ ss, s.Settled c) :
    ss.forM run c = (.ok (), Change.applyAll (changes ss c) c) := by
  induction ss generalizing c with
  | nil => rfl
  | cons s ss ih =>
    obtain ⟨hs, hss⟩ := List.forall_mem_cons.mp h
    refine Edits.forM_cons_eq_ok.mpr ⟨_, run_of_settled hs, ?_⟩
    cases hk : s.change? c with
    | none =>
      rw [changes, List.filterMap_cons_none hk]
      exact ih hss
    | some k =>
      have hready := hs.ready hk
      rw [changes, List.filterMap_cons_some hk, ← changes, ← changes_apply ss k]
      exact ih fun s hmem => (settled_apply hready).mpr (hss s hmem)

/-- A list of changes that add nothing makes no difference to what is settled, nor to what the steps change. -/
theorem settled_applyAll {ks : List Change} (hready : ∀ k ∈ ks, k.Ready c) (h : s.Settled c) :
    s.Settled (Change.applyAll ks c) := by
  induction ks generalizing c with
  | nil => exact h
  | cons k ks ih =>
    obtain ⟨hk, hks⟩ := List.forall_mem_cons.mp hready
    exact ih (fun k' hk' => (hks k' hk').apply) ((settled_apply hk).mpr h)

theorem changes_applyAll (ss : List AccessStep) (ks : List Change) (c : ClassFile) :
    changes ss (Change.applyAll ks c) = changes ss c := by
  induction ks generalizing c with
  | nil => rfl
  | cons k ks ih => exact (ih (k.apply c)).trans (changes_apply ss k c)

/-- A body is given by the step that installs it. -/
theorem install_mem_of_mem_changes {t : Target} {i : Nat} (hk : .method i (.fill t) ∈ changes ss c) :
    install t ∈ ss ∧ ∃ j, c.findMethod? t.accessor.name t.accessor.descriptor = some j := by
  obtain ⟨s, hs, hchange⟩ := List.mem_filterMap.mp hk
  cases s with
  | openField f =>
    obtain ⟨j, -, heq⟩ := Option.map_eq_some_iff.mp hchange
    cases heq
  | openMethod m =>
    obtain ⟨j, -, heq⟩ := Option.map_eq_some_iff.mp hchange
    cases heq
  | install t' =>
    obtain ⟨j, hj, heq⟩ := Option.map_eq_some_iff.mp hchange
    cases heq
    exact ⟨hs, _, hj⟩

/-- A body that a change gives is one that the pool is complete for. -/
theorem complete_of_mem_changes {t : Target} {i : Nat} (h : ∀ s ∈ ss, s.Settled c)
    (hk : .method i (.fill t) ∈ changes ss c) : t.Complete c.pool := by
  obtain ⟨hs, j, hj⟩ := install_mem_of_mem_changes hk
  exact (h _ hs j hj).1

theorem ready_of_mem_changes (h : ∀ s ∈ ss, s.Settled c) : ∀ k ∈ changes ss c, k.Ready c := by
  intro k hk
  obtain ⟨s, hs, hchange⟩ := List.mem_filterMap.mp hk
  exact (h s hs).ready hchange

/-- **Steps in a row leave a pool that is settled for all of them**, and over it they are their changes. -/
theorem settled_of_run_all (hnames : c.NamesResolve) (hcount : c.pool.count ≤ 65536)
    (h : ss.forM run c = (.ok (), c')) :
    c.pool.Extends c'.pool ∧ c'.pool.count ≤ 65536 ∧ ∀ p, c'.pool.Extends p → p.count ≤ 65536 →
      (∀ s ∈ ss, s.Settled (c.withPool p)) ∧
        c'.withPool p = Change.applyAll (changes ss (c.withPool p)) (c.withPool p) := by
  induction ss generalizing c with
  | nil =>
    obtain rfl := Edits.forM_nil_eq_ok.mp h
    exact ⟨.refl _, hcount, fun p _ _ => ⟨fun s hs => (nomatch hs), rfl⟩⟩
  | cons s ss ih =>
    obtain ⟨u, hu, hrest⟩ := Edits.forM_cons_eq_ok.mp h
    obtain ⟨hextends, hcountU, hover⟩ := settled_of_run hnames hcount hu
    obtain ⟨hextends', hcount', hover'⟩ := ih (namesResolve_of_run hnames hcount hu) hcountU hrest
    refine ⟨hextends.of_extends hextends', hcount', fun p hp hpCount => ?_⟩
    obtain ⟨hs, hchange⟩ := hover p (hextends'.of_extends hp) hpCount
    obtain ⟨hss, hchanges⟩ := hover' p hp hpCount
    rw [hchange] at hss hchanges
    cases hk : s.change? (c.withPool p) with
    | none =>
      rw [hk] at hss hchanges
      rw [changes, List.filterMap_cons_none hk]
      exact ⟨List.forall_mem_cons.mpr ⟨hs, hss⟩, hchanges⟩
    | some k =>
      rw [hk] at hss hchanges
      rw [changes, List.filterMap_cons_some hk, ← changes]
      dsimp only [Option.elim_some] at hss hchanges
      rw [changes_apply] at hchanges
      refine ⟨List.forall_mem_cons.mpr ⟨hs, fun s' hs' => ?_⟩, hchanges⟩
      exact (settled_apply (hs.ready hk)).mp (hss s' hs')

end AccessStep

/-! ## The steps of the weaving -/

open AccessStep

variable {c c' : ClassFile} {d : TypeDescriptor}

namespace Target

/-- The step that opens the member. -/
def opening : Target → AccessStep
  | field t => .openField t.field
  | method t => .openMethod t.method

/-- The steps for targets of one kind: the members that the class owns are opened, and then the accessors that it hosts get
their bodies. -/
def steps (d : TypeDescriptor) (targets : List Target) : List AccessStep :=
  (targets.filter fun t => t.owner = d).map opening ++ (targets.filter fun t => t.accessorOwner = d).map .install

theorem mem_of_install_mem_steps {ts : List Target} {t : Target} (h : .install t ∈ steps d ts) : t ∈ ts := by
  rcases List.mem_append.mp h with h | h
  · obtain ⟨t', -, heq⟩ := List.mem_map.mp h
    cases t' <;> cases heq
  · obtain ⟨t', ht', heq⟩ := List.mem_map.mp h
    cases heq
    exact List.mem_of_mem_filter ht'

end Target

theorem Role.apply_eq_ok {τ : Type} {r : Role τ} {target : τ → Target} {ts : List τ}
    (howner : ∀ t, (target t).owner = r.owner t) (hhost : ∀ t, (target t).accessorOwner = r.accessorOwner t)
    (hwiden : ∀ t, (target t).opening.run = r.widen t) (hinstall : ∀ t, (AccessStep.install (target t)).run = r.install t) :
    r.apply ts c = (.ok (), c') ↔
      ∃ d, c.typeDescriptor = .ok d ∧ (Target.steps d (ts.map target)).forM run c = (.ok (), c') := by
  rw [Role.apply, Edits.get_bind, Edits.bind_eq_ok]
  refine exists_congr fun d => ?_
  have howned : ((ts.map target).filter fun t => t.owner = d) = (ts.filter fun t => r.owner t = d).map target := by
    rw [List.filter_map]
    exact congrArg _ (List.filter_congr fun t _ => by rw [Function.comp, howner])
  have hhosted : ((ts.map target).filter fun t => t.accessorOwner = d) =
      (ts.filter fun t => r.accessorOwner t = d).map target := by
    rw [List.filter_map]
    exact congrArg _ (List.filter_congr fun t _ => by rw [Function.comp, hhost])
  rw [Target.steps, howned, hhosted, Edits.forM_append_eq_ok, List.map_map, List.map_map, Edits.forM_map, Edits.forM_map]
  simp only [Function.comp, hwiden, hinstall]
  constructor
  · rintro ⟨_, hresult, h⟩
    obtain ⟨hd, rfl⟩ := Weaving.ofResult_eq_ok.mp hresult
    obtain ⟨_, u, hu, h⟩ := Edits.bind_eq_ok.mp h
    exact ⟨hd, u, hu, h⟩
  · rintro ⟨hd, u, hu, h⟩
    exact ⟨c, Weaving.ofResult_eq_ok.mpr ⟨hd, rfl⟩, Edits.bind_eq_ok.mpr ⟨(), u, hu, h⟩⟩

/-- A class keeps its identity when its pool grows and its members change. -/
theorem typeDescriptor_of_extends (hpool : c.pool.Extends c'.pool) (hclass : c'.thisClass = c.thisClass)
    (h : c.typeDescriptor = .ok d) : c'.typeDescriptor = .ok d := by
  rw [ClassFile.typeDescriptor, ClassFile.name] at h ⊢
  cases hname : c.pool.className c.thisClass with
  | error e =>
    rw [hname] at h
    cases h
  | ok name =>
    rw [hclass, hpool.className hname]
    rwa [hname] at h

namespace Access

variable {a : Access}

/-- The steps that the weaving takes in a class, fields' targets first. -/
def steps (a : Access) (d : TypeDescriptor) : List AccessStep :=
  Target.steps d (a.fields.map .field) ++ Target.steps d (a.methods.map .method)

theorem apply_eq_ok : a.apply c = (.ok (), c') ↔
    ∃ d, c.typeDescriptor = .ok d ∧ ∃ u, (Target.steps d (a.fields.map .field)).forM run c = (.ok (), u) ∧
      ∃ d', u.typeDescriptor = .ok d' ∧ (Target.steps d' (a.methods.map .method)).forM run u = (.ok (), c') := by
  have hfields (u : ClassFile) : Role.fields.apply a.fields c = (.ok (), u) ↔
      ∃ d, c.typeDescriptor = .ok d ∧ (Target.steps d (a.fields.map .field)).forM run c = (.ok (), u) :=
    Role.apply_eq_ok (fun _ => rfl) (fun _ => rfl) (fun _ => rfl) fun _ => rfl
  have hmethods (u : ClassFile) : Role.methods.apply a.methods u = (.ok (), c') ↔
      ∃ d, u.typeDescriptor = .ok d ∧ (Target.steps d (a.methods.map .method)).forM run u = (.ok (), c') :=
    Role.apply_eq_ok (fun _ => rfl) (fun _ => rfl) (fun _ => rfl) fun _ => rfl
  rw [apply, Edits.bind_eq_ok]
  constructor
  · rintro ⟨_, u, hu, h⟩
    obtain ⟨d, hd, hsteps⟩ := (hfields u).mp hu
    exact ⟨d, hd, u, hsteps, (hmethods u).mp h⟩
  · rintro ⟨d, hd, u, hsteps, h⟩
    exact ⟨(), u, (hfields u).mpr ⟨d, hd, hsteps⟩, (hmethods u).mpr h⟩

/-- The weaving takes its steps. -/
theorem forM_steps_of_apply (hnames : c.NamesResolve) (hcount : c.pool.count ≤ 65536) (h : a.apply c = (.ok (), c')) :
    ∃ d, c.typeDescriptor = .ok d ∧ (a.steps d).forM run c = (.ok (), c') := by
  obtain ⟨d, hd, u, hfields, d', hd', hmethods⟩ := apply_eq_ok.mp h
  obtain ⟨hextends, hcountU, hover⟩ := settled_of_run_all hnames hcount hfields
  have hclass : u.thisClass = c.thisClass := by
    have hu := (hover u.pool (.refl _) hcountU).2
    rw [Change.applyAll_eq] at hu
    have hsame := congrArg ClassFile.thisClass hu
    exact hsame
  -- the fields' steps have left the class what it was for the methods' targets
  obtain rfl : d' = d := Except.ok.inj (hd'.symm.trans (typeDescriptor_of_extends hextends hclass hd))
  exact ⟨d', hd, Edits.forM_append_eq_ok.mpr ⟨u, hfields, hmethods⟩⟩

/-- **The weaving leaves a pool that is settled for all its steps, and a class with their changes.** -/
theorem settled_of_apply (hnames : c.NamesResolve) (hcount : c.pool.count ≤ 65536) (h : a.apply c = (.ok (), c')) :
    ∃ d, c.typeDescriptor = .ok d ∧ c.pool.Extends c'.pool ∧ (∀ s ∈ a.steps d, s.Settled (c.withPool c'.pool)) ∧
      c' = Change.applyAll (changes (a.steps d) (c.withPool c'.pool)) (c.withPool c'.pool) := by
  obtain ⟨d, hd, hsteps⟩ := forM_steps_of_apply hnames hcount h
  obtain ⟨hextends, hcount', hover⟩ := settled_of_run_all hnames hcount hsteps
  obtain ⟨hsettled, hchanges⟩ := hover c'.pool (.refl _) hcount'
  exact ⟨d, hd, hextends, hsettled, hchanges⟩

/-- **Over a settled pool the weaving is the changes of its steps.** -/
theorem apply_of_settled (hd : c.typeDescriptor = .ok d) (h : ∀ s ∈ a.steps d, s.Settled c) :
    a.apply c = (.ok (), Change.applyAll (changes (a.steps d) c) c) := by
  obtain ⟨u, hfields, hmethods⟩ := Edits.forM_append_eq_ok.mp (run_all_of_settled h)
  refine apply_eq_ok.mpr ⟨d, hd, u, hfields, d, ?_, hmethods⟩
  have hu := (run_all_of_settled fun s hs => h s (List.mem_append_left _ hs)).symm.trans hfields
  obtain rfl : Change.applyAll _ c = u := congrArg Prod.snd hu
  rw [Change.applyAll_eq]
  exact typeDescriptor_of_extends (c := c) (.refl _) rfl hd

end Access

end ClassWeaver
