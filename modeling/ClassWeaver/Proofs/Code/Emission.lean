import ClassWeaver.Proofs.Code.Layout
import ClassWeaver.Proofs.Code.Operands

/-!
# The code array

The instructions of a layout, written one after the other, start at the offsets that the layout gave them, and are
read back from there.

## Contents

* `rowBytes_eq_ok` — rows one after the other.
* `stepCode`, `code_eq_ok` — the code array as the bytes of renamed instructions.
* `length_code` — the length of the code array is the layout's.
* `listed` — the instructions of a layout over offsets.
* `Settled.reaches` — a settled layout has chosen forms that reach.
* `decodeSteps_code` — reading the code array.
-/

namespace ClassWeaver.Layout

open Operands (Reads)

variable {is : List (Instruction Label)} {xs : List (Instruction Label × Bool)} {l : Layout} {offset : Nat}

/-! ## Writing -/

/-- The bytes of an instruction whose labels are at the offsets that `g` gives. -/
def stepCode (g : Label → Nat) (s : PlacedInstruction) : List UInt8 :=
  (s.instruction.map g).toBytes s.offset s.long

theorem length_stepCode (g : Label → Nat) (s : PlacedInstruction) :
    (stepCode g s).length = s.instruction.size s.offset s.long := by
  rw [stepCode, Instruction.length_toBytes, Instruction.size_map]

theorem stepCode_mark (g : Label → Nat) {s : PlacedInstruction} {label : Label}
    (h : s.instruction.mark? = some label) : stepCode g s = [] := by
  rw [← List.length_eq_zero_iff, length_stepCode, Instruction.size_mark h]

/-- Writing rows one after the other. -/
theorem rowBytes_eq_ok {α : Type} {row : α → Except Defect (List UInt8)} {write : α → List UInt8}
    (hrow : Totals write row) {rows : List α} {bytes : List UInt8} :
    rowBytes row rows = .ok bytes ↔ (∀ r ∈ rows, row r = .ok (write r)) ∧ rows.flatMap write = bytes := by
  rw [rowBytes, hrow.mapM.map_eq_ok, hrow.mapM_eq_ok, List.flatMap, eq_comm (a := bytes)]
  simp

/-- **The code array** is the bytes of the instructions with their labels resolved, if every label is found. -/
theorem code_eq_ok {bytes : List UInt8} :
    l.code = .ok bytes ↔ (∀ s ∈ l.steps, ∀ p ∈ s.instruction.positions, l.Found p) ∧
      l.steps.flatMap (stepCode l.resolve) = bytes := by
  have hmap : Totals (Instruction.map l.resolve) (Instruction.mapM l.offsetOf) :=
    fun _ _ h => ((Instruction.mapM_eq_ok l.totals_resolve).mp h).2.symm
  have hbytes : ∀ (s : PlacedInstruction) (bytes : List UInt8), l.stepBytes s = .ok bytes ↔
      (∀ p ∈ s.instruction.positions, l.Found p) ∧ stepCode l.resolve s = bytes := by
    intro s bytes
    rw [stepBytes, hmap.bind_eq_ok, Instruction.mapM_eq_ok l.totals_resolve]
    simp [stepCode, pure, Except.pure]
  have hstep : Totals (stepCode l.resolve) l.stepBytes := fun s bytes h => ((hbytes s bytes).mp h).2
  rw [code, rowBytes_eq_ok hstep]
  simp [hbytes]

/-- Instructions take the bytes from their first offset to their end. -/
theorem length_flatMap_stepCode (g : Label → Nat) (offset : Nat) (xs : List (Instruction Label × Bool)) :
    offset + ((placed offset xs).flatMap (stepCode g)).length = endFrom offset xs := by
  induction xs generalizing offset with
  | nil => rfl
  | cons x rest ih =>
    rw [placed, List.flatMap_cons, List.length_append, length_stepCode, endFrom, ← ih, Nat.add_assoc]

/-- **The code array is as long as the layout says.** -/
theorem Settled.length_code (h : Settled is l xs) (g : Label → Nat) :
    (l.steps.flatMap (stepCode g)).length = l.length := by
  have := length_flatMap_stepCode g 0 xs
  rwa [Nat.zero_add, ← h.steps_eq, ← h.length_eq] at this

/-! ## Reading -/

/-- The instructions of a layout at their offsets, without marks. -/
def listed (g : Label → Nat) (steps : List PlacedInstruction) : List (Nat × Instruction Nat) :=
  (realSteps steps).map fun s => (s.offset, s.instruction.map g)

theorem mark?_of_mem_listed {g : Label → Nat} {steps : List PlacedInstruction} :
    ∀ s ∈ listed g steps, s.2.mark? = none := by
  intro s hs
  obtain ⟨t, ht, rfl⟩ := List.mem_map.mp hs
  rw [Instruction.mark?_map, (mem_realSteps.mp ht).2]
  rfl

theorem countP_listed (g : Label → Nat) (steps : List PlacedInstruction) (offset : Nat) :
    (listed g steps).countP (·.1 < offset) = countBefore steps offset := by
  rw [listed, List.countP_map]
  rfl

theorem mem_offsets_listed {g : Label → Nat} {steps : List PlacedInstruction} {stop offset : Nat} :
    offset ∈ (listed g steps).map Prod.fst ++ [stop] ↔ Boundary steps stop offset := by
  rw [listed, List.map_map, List.mem_append, List.mem_map, List.mem_singleton]
  exact Iff.rfl

/-- The offsets of instructions increase, up to the end. -/
theorem Settled.pairwise_listed (h : Settled is l xs) (g : Label → Nat) :
    ((listed g l.steps).map Prod.fst ++ [l.length]).Pairwise (· < ·) := by
  rw [h.steps_eq, h.length_eq, listed, List.map_map, List.pairwise_append, List.pairwise_map]
  refine ⟨pairwise_realSteps 0 xs, List.pairwise_singleton _ _, ?_⟩
  intro o ho stop hstop
  obtain ⟨s, hs, rfl⟩ := List.mem_map.mp ho
  obtain ⟨hmem, hmark⟩ := mem_realSteps.mp hs
  have hbounds := (bounds_of_mem_placed hmem).2
  have hpos := Instruction.size_pos hmark s.offset s.long
  rw [List.mem_singleton.mp hstop]
  show s.offset < endFrom 0 xs
  omega

/-- The instructions of a layout without its marks are those of the list without its marks. -/
theorem Settled.map_realSteps (h : Settled is l xs) :
    (realSteps l.steps).map PlacedInstruction.instruction = is.filter (·.mark?.isNone) := by
  have hsteps : l.steps.map PlacedInstruction.instruction = is := by
    rw [← h.instructions, ← map_placed 0 xs, ← h.steps_eq, List.map_map]
    rfl
  rw [← hsteps, List.filter_map]
  rfl

/-- **In a settled layout every form reaches.** -/
theorem Settled.reaches (h : Settled is l xs) {s : PlacedInstruction} (hs : s ∈ l.steps)
    (hfound : ∀ p ∈ s.instruction.positions, l.Found p) :
    (s.instruction.map l.resolve).Reaches l.length s.offset s.long := by
  constructor
  · intro t ht
    rw [Instruction.positions_map] at ht
    obtain ⟨p, hp, rfl⟩ := List.mem_map.mp ht
    exact h.resolve_le (hfound p hp)
  · intro op t hjump
    obtain ⟨label, hi, rfl⟩ : ∃ label, s.instruction = .jump op label ∧ t = l.resolve label := by
      cases hi : s.instruction <;> rw [hi, Instruction.map] at hjump <;> cases hjump
      exact ⟨_, rfl, rfl⟩
    -- a long jump was made long because it can be, a short one stayed short because it reaches
    have hneeds := h.needsLong s hs
    have hwidenable := h.widenable s hs
    rw [hi] at hfound hwidenable
    have hlabel := hfound label (List.mem_singleton_self label)
    cases hlong : s.long with
    | true =>
      rw [if_pos rfl]
      exact hwidenable hlong
    | false =>
      rw [if_neg Bool.false_ne_true]
      simp only [Layout.needsLong, hlong, hi, hlabel, Bool.false_eq_true, if_false] at hneeds
      split at hneeds
      · assumption
      · split at hneeds <;> cases hneeds

/-- Reading goes over the bytes of instructions, of which there are at most `fuel`; marks have no bytes. -/
theorem decodeStepsFrom_placed {length : Nat} {g : Label → Nat}
    (hreads : ∀ s ∈ placed offset xs, s.instruction.mark? = none →
      Reads (decodeInstruction length) s.offset (stepCode g s) (s.instruction.map g))
    {fuel : Nat} (hfuel : (realSteps (placed offset xs)).length ≤ fuel) (read : List (Nat × Instruction Nat)) :
    decodeStepsFrom length read fuel ⟨offset, (placed offset xs).flatMap (stepCode g)⟩ =
      .ok (read.reverse ++ listed g (placed offset xs)) := by
  -- marks take no fuel and no bytes, so the induction is on the list and not on the fuel
  induction xs generalizing offset fuel read with
  | nil =>
    cases fuel <;> simp [decodeStepsFrom, placed, listed, realSteps]
  | cons x rest ih =>
    rw [placed, List.forall_mem_cons] at hreads
    rw [placed] at hfuel ⊢
    cases hmark : x.1.mark? with
    | some label =>
      rw [Instruction.size_mark hmark, Nat.add_zero] at hreads hfuel ⊢
      rw [realSteps_cons_mark hmark] at hfuel
      rw [List.flatMap_cons, stepCode_mark g hmark, List.nil_append, listed, realSteps_cons_mark hmark]
      exact ih hreads.2 hfuel read
    | none =>
      rw [realSteps_cons_real hmark, List.length_cons] at hfuel
      obtain ⟨fuel, rfl⟩ : ∃ n, fuel = n + 1 := ⟨fuel - 1, by omega⟩
      have hlength : (stepCode g ⟨offset, x.2, x.1⟩).length = x.1.size offset x.2 := length_stepCode g _
      have hpos := Instruction.size_pos hmark offset x.2
      have hbytes : ((stepCode g ⟨offset, x.2, x.1⟩) ++ (placed (offset + x.1.size offset x.2) rest).flatMap
          (stepCode g)).isEmpty = false := by
        rw [List.isEmpty_eq_false_iff, ← List.length_pos_iff, List.length_append]
        omega
      rw [List.flatMap_cons, decodeStepsFrom]
      dsimp only
      rw [hbytes, if_neg Bool.false_ne_true, hreads.1 hmark]
      dsimp only
      rw [hlength, ih hreads.2 (by omega), listed, listed, realSteps_cons_real hmark]
      simp

/-- Every instruction takes a byte at least. -/
theorem length_realSteps_le (offset : Nat) (xs : List (Instruction Label × Bool)) :
    offset + (realSteps (placed offset xs)).length ≤ endFrom offset xs := by
  induction xs generalizing offset with
  | nil => exact Nat.le_refl _
  | cons x rest ih =>
    have hrest := ih (offset + x.1.size offset x.2)
    rw [placed, endFrom]
    cases hmark : x.1.mark? with
    | some label =>
      rw [realSteps_cons_mark hmark]
      omega
    | none =>
      have hpos := Instruction.size_pos hmark offset x.2
      rw [realSteps_cons_real hmark, List.length_cons]
      omega

/-- **The code array reads back**: its instructions, with their targets resolved, at the offsets of the layout. -/
theorem Settled.decodeSteps_code (h : Settled is l xs) {bytes : List UInt8} (hcode : l.code = .ok bytes)
    (hshaped : ∀ i ∈ is, i.Shaped) (hlen : l.length < 65536) :
    decodeSteps bytes = .ok (listed l.resolve l.steps) := by
  obtain ⟨hfound, rfl⟩ := code_eq_ok.mp hcode
  rw [decodeSteps, h.length_code, h.steps_eq]
  have hreads : ∀ s ∈ placed 0 xs, s.instruction.mark? = none →
      Reads (decodeInstruction l.length) s.offset (stepCode l.resolve s) (s.instruction.map l.resolve) := by
    intro s hs hmark
    have hmem : s ∈ l.steps := h.steps_eq ▸ hs
    have hstop : s.offset + s.instruction.size s.offset s.long ≤ l.length :=
      h.length_eq ▸ (bounds_of_mem_placed hs).2
    have hinstruction : s.instruction ∈ is := by
      rw [← h.instructions, ← map_placed 0 xs, List.map_map]
      exact List.mem_map_of_mem hs
    apply reads_instruction
    · rw [Instruction.mark?_map, hmark]
      rfl
    · exact (Instruction.shaped_map _ _).mpr (hshaped _ hinstruction)
    · exact h.reaches hmem (hfound s hmem)
    · exact hlen
    · rwa [Instruction.size_map]
  have hfuel : (realSteps (placed 0 xs)).length ≤ l.length := by
    have := length_realSteps_le 0 xs
    rwa [Nat.zero_add, ← h.length_eq] at this
  exact decodeStepsFrom_placed hreads hfuel []

end ClassWeaver.Layout
