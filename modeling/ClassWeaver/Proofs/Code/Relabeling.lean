import ClassWeaver.Proofs.Code.Offsets
import ClassWeaver.Proofs.Code.RoundTrip

/-!
# Written alike

Labels and marks are there to name places. Two bodies that agree but for the names of their places are laid out by the
same rounds and written as the same bytes, into a pool that has the names of the attributes already.

## Contents

* `Relabels` — the same instructions under other labels, and what their layouts have in common.
* `lengthen_relabels`, `rounds_relabels` — one round and all rounds.
* `Renames.layout_eq_ok` — the layouts of two bodies.
* `Renames.encode_eq_ok` — the payloads of two bodies.
-/

namespace ClassWeaver

/-- The step under other labels. -/
def PlacedInstruction.relabel (name : Label → Label) (s : PlacedInstruction) : PlacedInstruction :=
  ⟨s.offset, s.long, s.instruction.map name⟩

namespace Layout

variable {is is' : List (Instruction Label)} {xs ys : List (Instruction Label × Bool)} {long long' next : List Bool}
  {name : Label → Label}

/-! ## The same instructions under other labels -/

/-- Apart from the marks, the second list is the first one under other labels. -/
def Relabels (name : Label → Label) (xs ys : List (Instruction Label × Bool)) : Prop :=
  real ys = (real xs).map fun x => (x.1.map name, x.2)

theorem endFrom_relabel (name : Label → Label) (offset : Nat) (xs : List (Instruction Label × Bool)) :
    endFrom offset (xs.map fun x => (x.1.map name, x.2)) = endFrom offset xs := by
  induction xs generalizing offset with
  | nil => rfl
  | cons x rest ih => rw [List.map_cons, endFrom, endFrom, Instruction.size_map, ih]

theorem placed_relabel (name : Label → Label) (offset : Nat) (xs : List (Instruction Label × Bool)) :
    placed offset (xs.map fun x => (x.1.map name, x.2)) = (placed offset xs).map (PlacedInstruction.relabel name) := by
  induction xs generalizing offset with
  | nil => rfl
  | cons x rest ih =>
    rw [List.map_cons, placed, placed, List.map_cons, Instruction.size_map, ih]
    rfl

theorem Relabels.startOf (h : Relabels name xs ys) (n : Nat) : startOf ys n = Layout.startOf xs n := by
  rw [Layout.startOf, h, ← List.map_take, endFrom_relabel, Layout.startOf]

theorem Relabels.endFrom (h : Relabels name xs ys) : endFrom 0 ys = Layout.endFrom 0 xs := by
  rw [← endFrom_real, h, endFrom_relabel, endFrom_real]

/-- What is kept of offsets does not decide which instructions are marks. -/
theorem realSteps_wrap (steps : List PlacedInstruction) :
    realSteps (steps.map PlacedInstruction.wrap) = (realSteps steps).map PlacedInstruction.wrap :=
  List.filter_map

theorem Relabels.realSteps (h : Relabels name xs ys) :
    realSteps (laid ys).steps = (Layout.realSteps (laid xs).steps).map (PlacedInstruction.relabel name) := by
  rw [laid, laid, realSteps_wrap, realSteps_wrap, realSteps_placed, h, placed_relabel, realSteps_placed, List.map_map,
    List.map_map]
  rfl

/-- A choice gives the steps of a layout another form. -/
theorem real_zip_map (hlen : long.length = is.length) (choice : PlacedInstruction → Bool) :
    real (is.zip ((of is long).steps.map choice)) =
      (Layout.realSteps (of is long).steps).map fun s => (s.instruction, choice s) := by
  have hzip : is.zip ((of is long).steps.map choice) = (of is long).steps.map fun s => (s.instruction, choice s) := by
    conv => lhs; arg 1; rw [← map_instruction_of hlen]
    exact List.zip_map'
  rw [hzip, real, List.filter_map]
  rfl

/-! ## One round -/

/-- An instruction needs its long form under other labels as it does under its own. -/
theorem needsLong_relabel {l l' : Layout} {s : PlacedInstruction}
    (htargets : ∀ label ∈ s.instruction.positions, l'.offsetOf (name label) = l.offsetOf label) :
    l'.needsLong (s.relabel name) = l.needsLong s := by
  rw [needsLong, needsLong, PlacedInstruction.relabel]
  cases hi : s.instruction with
  | jump op target =>
    rw [hi] at htargets
    simp only [Instruction.map, htargets target (List.mem_singleton_self target)]
  | _ => rfl

/-- A mark keeps its form. -/
theorem needsLong_mark (l : Layout) {s : PlacedInstruction} {label : Label} (h : s.instruction.mark? = some label) :
    l.needsLong s = .ok s.long := by
  rw [needsLong]
  cases hi : s.instruction with
  | mark p => cases s.long <;> rfl
  | _ => rw [hi] at h; cases h

/-- A round ends the rounds if it keeps the form of every instruction. -/
theorem map_needsLong_eq_iff (hlen : long.length = is.length) :
    (of is long).steps.map (fun s => ((of is long).needsLong s).toOption.getD false) = long ↔
      ∀ s ∈ Layout.realSteps (of is long).steps, ((of is long).needsLong s).toOption.getD false = s.long := by
  conv => lhs; rhs; rw [← map_long_of hlen]
  rw [List.map_inj_left]
  constructor
  · intro h s hs
    exact h s (mem_realSteps.mp hs).1
  · intro h s hs
    cases hmark : s.instruction.mark? with
    | none => exact h s (mem_realSteps.mpr ⟨hs, hmark⟩)
    | some label =>
      rw [needsLong_mark _ hmark]
      rfl

section

variable (hlen : long.length = is.length) (hlen' : long'.length = is'.length)
  (hpositions : ∀ i ∈ is, i.mark? = none → ∀ label ∈ i.positions,
    ∃ n, positionFrom? label 0 is = some n ∧ positionFrom? (name label) 0 is' = some n)

include hlen hlen' hpositions

/-- An instruction needs the long form under other labels if it needs it. -/
theorem needsLong_of_relabels (h : Relabels name (is.zip long) (is'.zip long')) :
    ∀ s ∈ Layout.realSteps (of is long).steps,
      (of is' long').needsLong (s.relabel name) = (of is long).needsLong s := by
  intro s hs
  obtain ⟨hmem, hmark⟩ := mem_realSteps.mp hs
  refine needsLong_relabel fun label hlabel => ?_
  obtain ⟨n, hn, hn'⟩ := hpositions _ (List.of_mem_zip (mem_of_mem_steps hmem)).1 hmark label hlabel
  rw [offsetOf_of hlen, offsetOf_of hlen', hn, hn']
  simp only [h.startOf]

/-- **One round** makes the same jumps long under other labels. -/
theorem lengthen_relabels (h : Relabels name (is.zip long) (is'.zip long'))
    (hnext : (of is long).lengthen = .ok next) :
    ∃ next', (of is' long').lengthen = .ok next' ∧ next.length = is.length ∧ next'.length = is'.length ∧
      Relabels name (is.zip next) (is'.zip next') ∧ (next' = long' ↔ next = long) := by
  obtain ⟨hfound, rfl⟩ := ((totals_getD (of is long).needsLong false).mapM_eq_ok).mp hnext
  have hsteps : Layout.realSteps (of is' long').steps =
      (Layout.realSteps (of is long).steps).map (PlacedInstruction.relabel name) := by
    rw [of_eq, of_eq]
    exact h.realSteps
  have hneeds := needsLong_of_relabels hlen hlen' hpositions h
  have hfound' : ∀ s ∈ (of is' long').steps,
      (of is' long').needsLong s = .ok (((of is' long').needsLong s).toOption.getD false) := by
    intro s hs
    cases hmark : s.instruction.mark? with
    | some label =>
      rw [needsLong_mark _ hmark]
      rfl
    | none =>
      -- an instruction of the second layout is one of the first
      have hreal := mem_realSteps.mpr ⟨hs, hmark⟩
      rw [hsteps] at hreal
      obtain ⟨t, ht, rfl⟩ := List.mem_map.mp hreal
      rw [hneeds t ht, hfound t (mem_realSteps.mp ht).1]
      rfl
  refine ⟨_, ((totals_getD (of is' long').needsLong false).mapM_eq_ok).mpr ⟨hfound', rfl⟩, ?_, ?_, ?_, ?_⟩
  · rw [List.length_map, length_steps_of hlen]
  · rw [List.length_map, length_steps_of hlen']
  · rw [Relabels, real_zip_map hlen, real_zip_map hlen', hsteps, List.map_map, List.map_map]
    refine List.map_congr_left fun s hs => ?_
    show (s.instruction.map name, ((of is' long').needsLong (s.relabel name)).toOption.getD false) = _
    rw [hneeds s hs]
    rfl
  · rw [map_needsLong_eq_iff hlen, map_needsLong_eq_iff hlen', hsteps, List.forall_mem_map]
    refine forall₂_congr fun s hs => ?_
    rw [hneeds s hs]
    rfl

omit hlen hlen' in
/-- **All rounds** make the same jumps long under other labels. -/
theorem rounds_relabels {fuel : Nat} {l : Layout} (hlen : long.length = is.length) (hlen' : long'.length = is'.length)
    (h : Relabels name (is.zip long) (is'.zip long')) (hl : rounds is fuel long = some (.ok l)) :
    ∃ last last', last.length = is.length ∧ last'.length = is'.length ∧
      Relabels name (is.zip last) (is'.zip last') ∧ l = of is last ∧
      rounds is' fuel long' = some (.ok (of is' last')) := by
  induction fuel generalizing long long' with
  | zero => cases hl
  | succ fuel ih =>
    rw [rounds] at hl
    cases hnext : (of is long).lengthen with
    | error e => rw [hnext] at hl; cases hl
    | ok next =>
      obtain ⟨next', hnext', hn, hn', hrelabels, hsame⟩ := lengthen_relabels hlen hlen' hpositions h hnext
      rw [hnext] at hl
      rw [rounds, hnext']
      dsimp only at hl ⊢
      by_cases heq : next = long
      · rw [if_pos heq] at hl
        cases hl
        rw [if_pos (hsame.mpr heq)]
        exact ⟨long, long', hlen, hlen', h, rfl, rfl⟩
      · rw [if_neg heq] at hl
        rw [if_neg fun h => heq (hsame.mp h)]
        exact ih hn hn' hrelabels hl

end

/-! ## The code array -/

/-- Marks have no bytes. -/
theorem flatMap_stepCode_realSteps (g : Label → Nat) (steps : List PlacedInstruction) :
    (Layout.realSteps steps).flatMap (stepCode g) = steps.flatMap (stepCode g) := by
  induction steps with
  | nil => rfl
  | cons s rest ih =>
    rw [List.flatMap_cons]
    cases hmark : s.instruction.mark? with
    | some label => rw [realSteps_cons_mark hmark, stepCode_mark g hmark, List.nil_append, ih]
    | none => rw [realSteps_cons_real hmark, List.flatMap_cons, ih]

theorem stepCode_relabel {g g' : Label → Nat} {s : PlacedInstruction}
    (h : ∀ label ∈ s.instruction.positions, g' (name label) = g label) :
    stepCode g' (s.relabel name) = stepCode g s := by
  show ((s.instruction.map name).map g').toBytes s.offset s.long = (s.instruction.map g).toBytes s.offset s.long
  rw [Instruction.map_map]
  exact congrArg _ (Instruction.map_congr h)

/-- Rows over other labels are written alike if each of them is. -/
theorem rowBytes_map {α β : Type} {row : α → Except Defect (List UInt8)} {row' : β → Except Defect (List UInt8)}
    {f : α → β} {rows : List α} (h : ∀ r ∈ rows, row' (f r) = row r) :
    rowBytes row' (rows.map f) = rowBytes row rows := by
  rw [rowBytes, rowBytes, List.mapM_map]
  exact congrArg _ (mapM_congr_left h)

theorem handlerBytes_map {l l' : Layout} {h : Handler Label}
    (hoffsets : ∀ label ∈ h.positions, l'.offsetOf (name label) = l.offsetOf label) :
    l'.handlerBytes (h.map name) = l.handlerBytes h := by
  simp only [Handler.positions, List.forall_mem_cons] at hoffsets
  simp only [handlerBytes, offsetBytes, Handler.map, hoffsets]

theorem lineBytes_map {l l' : Layout} {e : LineEntry Label} (hoffset : l'.offsetOf (name e.start) = l.offsetOf e.start) :
    l'.lineBytes (e.map name) = l.lineBytes e := by
  simp only [lineBytes, offsetBytes, LineEntry.map, hoffset]

theorem variableBytes_map {l l' : Layout} {v : VariableEntry Label}
    (hoffsets : ∀ label ∈ v.positions, l'.offsetOf (name label) = l.offsetOf label) :
    l'.variableBytes (v.map name) = l.variableBytes v := by
  simp only [VariableEntry.positions, List.forall_mem_cons] at hoffsets
  simp only [variableBytes, VariableEntry.map, hoffsets]

end Layout

namespace MethodBody

open ConstantPool (Addition)

variable {b b' : MethodBody} {name : Label → Label} {l l' : Layout} {p q r : ConstantPool}

/-! ## Layouts -/

/-- Marks have no long form. -/
theorem countP_unmarked (b : MethodBody) :
    b.unmarked.countP Instruction.isWidenable = b.instructions.countP Instruction.isWidenable := by
  rw [unmarked, List.countP_filter]
  refine List.countP_congr fun i _ => ?_
  cases i <;> simp [Instruction.isWidenable, Instruction.mark?]

/-- At first every instruction is short. -/
theorem real_zip_false (b : MethodBody) :
    Layout.real (b.instructions.zip (b.instructions.map fun _ => false)) = b.unmarked.map fun i => (i, false) := by
  have hzip : b.instructions.zip (b.instructions.map fun _ => false) = b.instructions.map fun i => (i, false) := by
    have := List.zip_map' (f := id) (g := fun _ => false) (l := b.instructions)
    rwa [List.map_id] at this
  rw [hzip, Layout.real, List.filter_map]
  rfl

namespace Renames

/-- **Bodies under other labels have the same layouts**, apart from the marks. -/
theorem layout_eq_ok (h : b.Renames name b') (hl : b.layout = .ok l) :
    ∃ last last', last.length = b.instructions.length ∧ last'.length = b'.instructions.length ∧
      Layout.Relabels name (b.instructions.zip last) (b'.instructions.zip last') ∧ l = .of b.instructions last ∧
      b'.layout = .ok (.of b'.instructions last') := by
  have hfuel : b'.instructions.countP Instruction.isWidenable = b.instructions.countP Instruction.isWidenable := by
    rw [← countP_unmarked, ← countP_unmarked, h.instructions, List.countP_map]
    exact List.countP_congr fun i _ => by cases i <;> rfl
  have hfirst : Layout.Relabels name (b.instructions.zip (b.instructions.map fun _ => false))
      (b'.instructions.zip (b'.instructions.map fun _ => false)) := by
    rw [Layout.Relabels, real_zip_false, real_zip_false, h.instructions, List.map_map, List.map_map]
    rfl
  have hpositions : ∀ i ∈ b.instructions, i.mark? = none → ∀ label ∈ i.positions,
      ∃ n, Layout.positionFrom? label 0 b.instructions = some n ∧
        Layout.positionFrom? (name label) 0 b'.instructions = some n := by
    intro i hi hmark label hlabel
    have hmem : i ∈ b.unmarked := List.mem_filter.mpr ⟨hi, Option.isNone_iff_eq_none.mpr hmark⟩
    exact h.positions label (mem_uses_of_instruction hmem hlabel)
  rw [layout] at hl
  cases hrounds : Layout.rounds b.instructions (b.instructions.countP Instruction.isWidenable + 1)
      (b.instructions.map fun _ => false) with
  | none => rw [hrounds] at hl; cases hl
  | some result =>
    rw [hrounds, Option.getD_some] at hl
    subst hl
    obtain ⟨last, last', hlen, hlen', hrelabels, hof, hrounds'⟩ := Layout.rounds_relabels hpositions
      (List.length_map _) (List.length_map _) hfirst hrounds
    exact ⟨last, last', hlen, hlen', hrelabels, hof, by rw [layout, hfuel, hrounds', Option.getD_some]⟩

end Renames

/-- Two layouts with the same instructions and labels at the same offsets, under two names. -/
structure Alike (name : Label → Label) (b b' : MethodBody) (l l' : Layout) : Prop where
  steps : Layout.realSteps l'.steps = (Layout.realSteps l.steps).map (PlacedInstruction.relabel name)
  instructions : ∀ s ∈ Layout.realSteps l.steps, s.instruction ∈ b.unmarked
  length : l'.length = l.length
  offsets : ∀ label ∈ b.uses, l'.offsetOf (name label) = l.offsetOf label
  found : ∀ label ∈ b.uses, l.Found label
  /-- The marks of the second layout are found. -/
  marks : ∀ s ∈ l'.steps, ∀ label, s.instruction.mark? = some label → l'.Found label

theorem Renames.alike (h : b.Renames name b') (hl : b.layout = .ok l) :
    ∃ l', b'.layout = .ok l' ∧ Alike name b b' l l' := by
  obtain ⟨last, last', hlen, hlen', hrelabels, rfl, hl'⟩ := h.layout_eq_ok hl
  refine ⟨_, hl', ?_, ?_, ?_, ?_, ?_, ?_⟩
  · rw [Layout.of_eq, Layout.of_eq]
    exact hrelabels.realSteps
  · intro s hs
    obtain ⟨hmem, hmark⟩ := Layout.mem_realSteps.mp hs
    exact List.mem_filter.mpr ⟨(List.of_mem_zip (Layout.mem_of_mem_steps hmem)).1, Option.isNone_iff_eq_none.mpr hmark⟩
  · rw [Layout.of_eq, Layout.of_eq]
    exact congrArg Layout.wrap hrelabels.endFrom
  · intro label hlabel
    obtain ⟨n, hn, hn'⟩ := h.positions label hlabel
    rw [position?] at hn hn'
    rw [Layout.offsetOf_of hlen, Layout.offsetOf_of hlen', hn, hn']
    simp only [hrelabels.startOf]
  · intro label hlabel
    obtain ⟨n, hn, -⟩ := h.positions label hlabel
    rw [position?] at hn
    exact Layout.found_of hlen hn
  · intro s hs label hmark
    have hmem := (List.of_mem_zip (Layout.mem_of_mem_steps hs)).1
    rw [Instruction.mark?_eq_some_iff.mp hmark] at hmem
    obtain ⟨n, hn⟩ := Layout.exists_positionFrom? hmem 0
    exact Layout.found_of hlen' hn

namespace Alike

variable (h : Alike name b b' l l')

include h

theorem resolve_eq {label : Label} (hlabel : label ∈ b.uses) : l'.resolve (name label) = l.resolve label :=
  l'.totals_resolve _ _ ((h.offsets label hlabel).trans (h.found label hlabel))

theorem found_name {label : Label} (hlabel : label ∈ b.uses) : l'.Found (name label) := by
  rw [Layout.Found, h.offsets label hlabel, h.found label hlabel, h.resolve_eq hlabel]

/-- The code arrays are the same. -/
theorem code_eq_ok {code : List UInt8} (hcode : l.code = .ok code) : l'.code = .ok code := by
  obtain ⟨-, rfl⟩ := Layout.code_eq_ok.mp hcode
  refine Layout.code_eq_ok.mpr ⟨?_, ?_⟩
  · intro s hs label hlabel
    cases hmark : s.instruction.mark? with
    | some marked =>
      rw [Instruction.mark?_eq_some_iff.mp hmark, Instruction.positions, List.mem_singleton] at hlabel
      exact hlabel ▸ h.marks s hs marked hmark
    | none =>
      have hreal := Layout.mem_realSteps.mpr ⟨hs, hmark⟩
      rw [h.steps] at hreal
      obtain ⟨t, ht, rfl⟩ := List.mem_map.mp hreal
      rw [PlacedInstruction.relabel, Instruction.positions_map] at hlabel
      obtain ⟨used, hused, rfl⟩ := List.mem_map.mp hlabel
      exact h.found_name (mem_uses_of_instruction (h.instructions t ht) hused)
  · rw [← Layout.flatMap_stepCode_realSteps l'.resolve l'.steps, ← Layout.flatMap_stepCode_realSteps l.resolve l.steps,
      h.steps, List.flatMap_map]
    have hstep : ∀ s ∈ Layout.realSteps l.steps,
        Layout.stepCode l'.resolve (s.relabel name) = Layout.stepCode l.resolve s :=
      fun s hs => Layout.stepCode_relabel fun label hlabel =>
        h.resolve_eq (mem_uses_of_instruction (h.instructions s hs) hlabel)
    rw [List.flatMap, List.map_congr_left hstep, List.flatMap]

end Alike

/-! ## Attributes -/

/-- A table that was written is written again into a pool that has its name. -/
theorem tableAttribute_again {α : Type} {table : String} {row row' : α → Except Defect (List UInt8)} {f : α → α}
    {rows : List α} (hrow : ∀ a ∈ rows, row' (f a) = row a) {attributes : List Attribute}
    (h : tableAttribute table row rows p = (.ok attributes, q)) (hqr : q.Extends r) :
    tableAttribute table row' (rows.map f) r = (.ok attributes, r) := by
  rw [tableAttribute] at h ⊢
  rw [List.isEmpty_map]
  split at h
  · rename_i hempty
    rw [if_pos hempty]
    obtain ⟨rfl, -⟩ := Addition.pure_eq_ok.mp h
    rfl
  · rename_i hempty
    obtain ⟨bytes, hbytes, h⟩ := Addition.lift_bind_eq_ok.mp h
    obtain ⟨i, middle, hi, h⟩ := Addition.bind_eq_ok.mp h
    obtain ⟨rfl, rfl⟩ := Addition.pure_eq_ok.mp h
    rw [if_neg hempty, Layout.rowBytes_map hrow, List.length_map]
    exact Addition.lift_bind_eq_ok.mpr ⟨bytes, hbytes,
      Addition.bind_eq_ok.mpr ⟨i, r, ConstantPool.add_again hi hqr, rfl⟩⟩

theorem extends_of_tableAttribute {α : Type} {table : String} {row : α → Except Defect (List UInt8)} {rows : List α}
    {attributes : List Attribute} (h : tableAttribute table row rows p = (.ok attributes, q)) : p.Extends q := by
  rw [tableAttribute] at h
  split at h
  · obtain ⟨-, rfl⟩ := Addition.pure_eq_ok.mp h
    exact .refl p
  · obtain ⟨bytes, -, h⟩ := Addition.lift_bind_eq_ok.mp h
    obtain ⟨i, middle, hi, h⟩ := Addition.bind_eq_ok.mp h
    obtain ⟨-, rfl⟩ := Addition.pure_eq_ok.mp h
    exact ConstantPool.extends_of_addUtf8 hi

theorem extends_of_frameAttribute {frames : List (Frame Label)} {attributes : List Attribute}
    (h : frameAttribute l frames p = (.ok attributes, q)) : p.Extends q := by
  rw [frameAttribute] at h
  split at h
  · obtain ⟨-, rfl⟩ := Addition.pure_eq_ok.mp h
    exact .refl p
  · obtain ⟨bytes, -, h⟩ := Addition.lift_bind_eq_ok.mp h
    obtain ⟨i, middle, hi, h⟩ := Addition.bind_eq_ok.mp h
    obtain ⟨-, rfl⟩ := Addition.pure_eq_ok.mp h
    exact ConstantPool.extends_of_addUtf8 hi

/-- A table of frames that was written is written again, if it has as many frames and the same bytes. -/
theorem frameAttribute_again {frames frames' : List (Frame Label)} (hcount : frames'.length = frames.length)
    (hbytes : ∀ bytes, Frame.encodeTable l.offsetOf frames = .ok bytes →
      Frame.encodeTable l'.offsetOf frames' = .ok bytes)
    {attributes : List Attribute} (h : frameAttribute l frames p = (.ok attributes, q)) (hqr : q.Extends r) :
    frameAttribute l' frames' r = (.ok attributes, r) := by
  have hempty : frames'.isEmpty = frames.isEmpty := by
    rw [Bool.eq_iff_iff, List.isEmpty_iff_length_eq_zero, List.isEmpty_iff_length_eq_zero, hcount]
  rw [frameAttribute] at h ⊢
  rw [hempty]
  split at h
  · rename_i hnone
    rw [if_pos hnone]
    obtain ⟨rfl, -⟩ := Addition.pure_eq_ok.mp h
    rfl
  · rename_i hsome
    obtain ⟨bytes, hwritten, h⟩ := Addition.lift_bind_eq_ok.mp h
    obtain ⟨i, middle, hi, h⟩ := Addition.bind_eq_ok.mp h
    obtain ⟨rfl, rfl⟩ := Addition.pure_eq_ok.mp h
    rw [if_neg hsome]
    exact Addition.lift_bind_eq_ok.mpr ⟨bytes, hbytes bytes hwritten,
      Addition.bind_eq_ok.mpr ⟨i, r, ConstantPool.add_again hi hqr, rfl⟩⟩

/-! ## Frames -/

section

variable {frames ordered : List (Frame Label)} {g g' : Label → Nat}

/-- There is one order in which the offsets of frames increase. -/
theorem sorted_eq_of_perm (hperm : ordered.Perm frames)
    (hordered : ordered.Pairwise fun x y => g x.position < g y.position)
    (hascending : Frame.Ascending 0 ((Frame.sorted g frames).map (Frame.located g))) :
    Frame.sorted g frames = ordered := by
  have hincreasing := hascending.pairwise
  rw [List.pairwise_map] at hincreasing
  exact List.Perm.eq_of_pairwise (fun _ _ _ _ hlt hgt => absurd hgt (Nat.lt_asymm hlt)) hincreasing hordered
    ((List.mergeSort_perm _ _).trans hperm.symm)

variable (hagree : ∀ fr ∈ ordered, ∀ label ∈ fr.positions, g' (name label) = g label)

include hagree

/-- The order stays under other labels. -/
theorem sorted_relabel (hordered : ordered.Pairwise fun x y => g x.position < g y.position) :
    Frame.sorted g' (ordered.map (·.map name)) = ordered.map (·.map name) := by
  refine List.mergeSort_of_pairwise (List.pairwise_map.mpr (hordered.imp_of_mem ?_))
  intro x y hx hy hlt
  rw [decide_eq_true_eq]
  show g' (name x.position) ≤ g' (name y.position)
  rw [hagree x hx _ x.position_mem, hagree y hy _ y.position_mem]
  exact Nat.le_of_lt hlt

theorem map_located_relabel : (ordered.map (·.map name)).map (Frame.located g') =
    (ordered.map (Frame.located g)).map fun q => (q.1, q.2.map name) := by
  rw [List.map_map, List.map_map]
  exact List.map_congr_left fun fr hfr => congrArg (·, fr.kind.map name) (hagree fr hfr _ fr.position_mem)

/-- The offsets that are written are the same. -/
theorem map_resolved_relabel : (ordered.map (·.map name)).map (fun fr => (g' fr.position, fr.kind.map g')) =
    ordered.map fun fr => (g fr.position, fr.kind.map g) := by
  rw [List.map_map]
  refine List.map_congr_left fun fr hfr => ?_
  show (g' (name fr.position), (fr.kind.map name).map g') = _
  rw [hagree fr hfr _ fr.position_mem, FrameKind.map_map]
  exact congrArg (Prod.mk _) (FrameKind.map_congr fun label hlabel => hagree fr hfr label (List.mem_append_left _ hlabel))

end

/-- Frames in the order of their positions are in the order of their offsets. -/
theorem pairwise_resolve (hl : ∃ xs, l.Settled b.instructions xs) {frames : List (Frame Label)}
    (hfound : ∀ fr ∈ frames, l.Found fr.position)
    (h : frames.Pairwise fun f g => ∃ m n, b.position? f.position = some m ∧ b.position? g.position = some n ∧ m < n) :
    frames.Pairwise fun f g => l.resolve f.position < l.resolve g.position := by
  obtain ⟨xs, hl⟩ := hl
  refine h.imp_of_mem ?_
  rintro f g hf hg ⟨m, n, hm, hn, hlt⟩
  have hf := hfound f hf
  have hg := hfound g hg
  rw [position?_eq hl hf] at hm
  rw [position?_eq hl hg] at hn
  rw [hl.offset_lt_iff hf hg, Option.some.inj hm, Option.some.inj hn]
  exact hlt

/-- The frames of the second body are those of the first in the order of their positions. -/
theorem Renames.frames_eq (h : b.Renames name b') : ∃ ordered : List (Frame Label), ordered.Perm (b.frames.getD []) ∧
    ordered.Pairwise (fun f g => ∃ m n, b.position? f.position = some m ∧ b.position? g.position = some n ∧ m < n) ∧
    b'.frames.getD [] = ordered.map (·.map name) := by
  obtain ⟨ordered, hperm, hpairwise, hframes⟩ := h.frames
  refine ⟨ordered, hperm, hpairwise, ?_⟩
  rw [hframes]
  cases ordered <;> rfl

/-- The table of frames of the second body is that of the first. -/
theorem Renames.encodeTable_eq_ok (h : b.Renames name b') (halike : Alike name b b' l l')
    (hl : ∃ xs, l.Settled b.instructions xs) {bytes : List UInt8}
    (hbytes : Frame.encodeTable l.offsetOf (b.frames.getD []) = .ok bytes) :
    Frame.encodeTable l'.offsetOf (b'.frames.getD []) = .ok bytes := by
  obtain ⟨ordered, hperm, hpairwise, hframes⟩ := h.frames_eq
  obtain ⟨hfound, hascending, rfl⟩ := (Frame.encodeTable_eq_ok l.totals_resolve).mp hbytes
  have hposition : ∀ fr ∈ ordered, l.Found fr.position := fun fr hfr =>
    hfound fr (hperm.mem_iff.mp hfr) _ fr.position_mem
  have hordered := pairwise_resolve hl hposition hpairwise
  have huses : ∀ fr ∈ ordered, ∀ label ∈ fr.positions, label ∈ b.uses :=
    fun fr hfr label hlabel => mem_uses_of_frame (hperm.mem_iff.mp hfr) hlabel
  have hagree : ∀ fr ∈ ordered, ∀ label ∈ fr.positions, l'.resolve (name label) = l.resolve label :=
    fun fr hfr label hlabel => halike.resolve_eq (huses fr hfr label hlabel)
  have hsorted := sorted_eq_of_perm hperm hordered hascending
  rw [hsorted] at hascending ⊢
  rw [hframes]
  refine (Frame.encodeTable_eq_ok l'.totals_resolve).mpr ⟨?_, ?_, ?_⟩
  · rw [List.forall_mem_map]
    intro fr hfr label hlabel
    rw [Frame.positions_map] at hlabel
    obtain ⟨used, hused, rfl⟩ := List.mem_map.mp hlabel
    exact halike.found_name (huses fr hfr used hused)
  · rw [sorted_relabel hagree hordered, map_located_relabel hagree]
    exact (Frame.ascending_map _).mpr hascending
  · rw [sorted_relabel hagree hordered, map_resolved_relabel hagree, List.length_map, hperm.length_eq]

/-! ## Payloads -/

/-- The attributes of the second body are those of the first. -/
theorem Renames.encodeAttributes_eq_ok (h : b.Renames name b') (halike : Alike name b b' l l')
    (hl : ∃ xs, l.Settled b.instructions xs) {attributes : List Attribute}
    (hattributes : b.encodeAttributes l p = (.ok attributes, q)) (hqr : q.Extends r) :
    b'.encodeAttributes l' r = (.ok attributes, r) := by
  rw [encodeAttributes] at hattributes ⊢
  obtain ⟨lines, p₁, hlines, hattributes⟩ := Addition.bind_eq_ok.mp hattributes
  obtain ⟨variableRows, p₂, hvariableRows, hattributes⟩ := Addition.bind_eq_ok.mp hattributes
  obtain ⟨variableTypes, p₃, hvariableTypes, hattributes⟩ := Addition.bind_eq_ok.mp hattributes
  obtain ⟨frames, p₄, hframes, hattributes⟩ := Addition.bind_eq_ok.mp hattributes
  obtain ⟨rfl, rfl⟩ := Addition.pure_eq_ok.mp hattributes
  -- each name was added to a pool that the last one extends
  have hx₃ := (extends_of_frameAttribute hframes).of_extends hqr
  have hx₂ := (extends_of_tableAttribute hvariableTypes).of_extends hx₃
  have hx₁ := (extends_of_tableAttribute hvariableRows).of_extends hx₂
  have hline : ∀ e ∈ b.lines, l'.lineBytes (e.map name) = l.lineBytes e := by
    intro e he
    exact Layout.lineBytes_map (halike.offsets _ (mem_uses_of_line he))
  have hvariable : ∀ v ∈ b.variableRows ++ b.variableTypes, l'.variableBytes (v.map name) = l.variableBytes v := by
    intro v hv
    exact Layout.variableBytes_map fun label hlabel => halike.offsets _ (mem_uses_of_variable hv hlabel)
  rw [List.forall_mem_append] at hvariable
  have hlines' := tableAttribute_again hline hlines hx₁
  have hvariableRows' := tableAttribute_again hvariable.1 hvariableRows hx₂
  have hvariableTypes' := tableAttribute_again hvariable.2 hvariableTypes hx₃
  rw [← h.lines] at hlines'
  rw [← h.variableRows] at hvariableRows'
  rw [← h.variableTypes] at hvariableTypes'
  have hcount : (b'.frames.getD []).length = (b.frames.getD []).length := by
    obtain ⟨ordered, hperm, -, hframes⟩ := h.frames_eq
    rw [hframes, List.length_map, hperm.length_eq]
  have hframes' := frameAttribute_again hcount (fun _ => h.encodeTable_eq_ok halike hl) hframes hqr
  rw [h.attributes]
  exact Addition.bind_eq_ok.mpr ⟨_, _, hlines', Addition.bind_eq_ok.mpr ⟨_, _, hvariableRows',
    Addition.bind_eq_ok.mpr ⟨_, _, hvariableTypes', Addition.bind_eq_ok.mpr ⟨_, _, hframes', rfl⟩⟩⟩⟩

/-- **A body under other labels is written as the same payload**, and what it needs in the pool is there already. -/
theorem Renames.encode_eq_ok (h : b.Renames name b') (hsize : ∀ l, b.layout = .ok l → l.span < 4294967296) {payload : List UInt8} (hpayload : b.encode p = (.ok payload, q)) :
    b'.encode q = (.ok payload, q) := by
  rw [encode] at hpayload ⊢
  obtain ⟨l, hl, hpayload⟩ := Addition.lift_bind_eq_ok.mp hpayload
  obtain ⟨l', hl', halike⟩ := h.alike hl
  refine Addition.lift_bind_eq_ok.mpr ⟨l', hl', ?_⟩
  rw [halike.length]
  split at hpayload
  · cases hpayload
  · rename_i hlength
    obtain ⟨code, hcode, hpayload⟩ := Addition.lift_bind_eq_ok.mp hpayload
    obtain ⟨handlers, hhandlers, hpayload⟩ := Addition.lift_bind_eq_ok.mp hpayload
    obtain ⟨attributes, middle, hattributes, hpayload⟩ := Addition.bind_eq_ok.mp hpayload
    obtain ⟨rfl, rfl⟩ := Addition.pure_eq_ok.mp hpayload
    have hhandler : ∀ row ∈ b.handlers, l'.handlerBytes (row.map name) = l.handlerBytes row := by
      intro row hrow
      exact Layout.handlerBytes_map fun label hlabel => halike.offsets _ (mem_uses_of_handler hrow hlabel)
    have hhandlers' := (Layout.rowBytes_map hhandler).trans hhandlers
    rw [← h.handlers] at hhandlers'
    have hattributes' := h.encodeAttributes_eq_ok halike (Layout.layout_settled hl (hsize l hl)) hattributes (.refl _)
    rw [if_neg hlength, h.maxStack, h.maxLocals, show b'.handlers.length = b.handlers.length by
      rw [h.handlers, List.length_map]]
    exact Addition.lift_bind_eq_ok.mpr ⟨code, halike.code_eq_ok hcode, Addition.lift_bind_eq_ok.mpr
      ⟨handlers, hhandlers', Addition.bind_eq_ok.mpr ⟨attributes, _, hattributes', rfl⟩⟩⟩

end MethodBody

end ClassWeaver
