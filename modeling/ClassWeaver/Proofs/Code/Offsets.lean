import ClassWeaver.Proofs.Code.Layout

/-!
# Offsets and numbers of instructions

An offset is where the instructions in front of it end. Marks take no bytes, so they may be left out of that sum, and
a label is known by the number of instructions in front of it: its offset in a layout is where that many instructions
end, or what 32 bits keep of that. Two layouts that agree on the instructions without the marks agree on every label.

## Contents

* `real`, `endFrom_real` — the instructions without the marks end at the same offset.
* `startOf` — where the instruction with a given number starts.
* `getElem?_marksFrom`, `offsetOf_laid`, `found_iff` — the offset of a label.
* `getElem?_placed`, `getElem?_realSteps` — the offset of an instruction.
* `startOf_le`, `startOf_lt` — offsets are ordered as the numbers are.
-/

namespace ClassWeaver.Layout

variable {is : List (Instruction Label)} {xs : List (Instruction Label × Bool)} {long : List Bool} {label : Label}

/-! ## Without the marks -/

/-- The instructions that take bytes. -/
def real (xs : List (Instruction Label × Bool)) : List (Instruction Label × Bool) :=
  xs.filter fun x => x.1.mark?.isNone

theorem real_cons_mark {x : Instruction Label × Bool} (h : x.1.mark? = some label)
    (xs : List (Instruction Label × Bool)) : real (x :: xs) = real xs := by
  rw [real, List.filter_cons_of_neg (by rw [h]; exact Bool.false_ne_true)]
  rfl

theorem real_cons_real {x : Instruction Label × Bool} (h : x.1.mark? = none)
    (xs : List (Instruction Label × Bool)) : real (x :: xs) = x :: real xs := by
  rw [real, List.filter_cons_of_pos (by rw [h]; rfl)]
  rfl

theorem real_append (xs ys : List (Instruction Label × Bool)) : real (xs ++ ys) = real xs ++ real ys :=
  List.filter_append ..

theorem endFrom_append (offset : Nat) (xs ys : List (Instruction Label × Bool)) :
    endFrom offset (xs ++ ys) = endFrom (endFrom offset xs) ys := by
  induction xs generalizing offset with
  | nil => rfl
  | cons x rest ih => exact ih _

/-- Marks do not move the end. -/
theorem endFrom_real (offset : Nat) (xs : List (Instruction Label × Bool)) :
    endFrom offset (real xs) = endFrom offset xs := by
  induction xs generalizing offset with
  | nil => rfl
  | cons x rest ih =>
    cases hmark : x.1.mark? with
    | some l => rw [real_cons_mark hmark, endFrom, Instruction.size_mark hmark, Nat.add_zero, ih]
    | none => rw [real_cons_real hmark, endFrom, endFrom, ih]

theorem realSteps_placed (offset : Nat) (xs : List (Instruction Label × Bool)) :
    realSteps (placed offset xs) = placed offset (real xs) := by
  induction xs generalizing offset with
  | nil => rfl
  | cons x rest ih =>
    rw [placed]
    cases hmark : x.1.mark? with
    | some l => rw [real_cons_mark hmark, realSteps_cons_mark hmark, Instruction.size_mark hmark, Nat.add_zero, ih]
    | none => rw [real_cons_real hmark, realSteps_cons_real hmark, placed, ih]

/-- Where the instruction with the number `n` starts, or the code ends if there are `n` of them. -/
def startOf (xs : List (Instruction Label × Bool)) (n : Nat) : Nat :=
  endFrom 0 ((real xs).take n)

/-! ## Labels -/

theorem le_of_positionFrom? {before n : Nat} (h : positionFrom? label before is = some n) : before ≤ n := by
  induction is generalizing before with
  | nil => cases h
  | cons i rest ih =>
    rw [positionFrom?] at h
    cases hmark : i.mark? with
    | none =>
      rw [hmark] at h
      exact Nat.le_of_succ_le (ih h)
    | some l =>
      rw [hmark] at h
      dsimp only at h
      rcases Option.or_eq_some_iff.mp h with h | ⟨-, h⟩
      · exact ih h
      · split at h <;> cases h
        exact Nat.le_refl _

/-- A label that is marked has a number. -/
theorem exists_positionFrom? {label : Label} (h : .mark label ∈ is) (before : Nat) :
    ∃ n, positionFrom? label before is = some n := by
  induction is generalizing before with
  | nil => cases h
  | cons i rest ih =>
    rw [positionFrom?]
    cases hmark : i.mark? with
    | none =>
      rcases List.mem_cons.mp h with rfl | h
      · cases hmark
      · exact ih h (before + 1)
    | some l =>
      dsimp only
      rcases List.mem_cons.mp h with rfl | h
      · rw [Option.some.inj hmark.symm, if_pos rfl]
        cases positionFrom? label before rest with
        | none => exact ⟨before, rfl⟩
        | some n => exact ⟨n, rfl⟩
      · obtain ⟨n, hn⟩ := ih h before
        exact ⟨n, by rw [hn, Option.some_or]⟩

/-- The marks of a label decide its offset by the number of instructions in front of the last of them. -/
theorem getElem?_marksFrom (labels : Std.TreeMap Nat Nat) (offset before : Nat)
    (xs : List (Instruction Label × Bool)) (label : Label) :
    (marksFrom labels offset xs)[label.id]? =
      ((positionFrom? label before (xs.map Prod.fst)).map fun n =>
        wrap (endFrom offset ((real xs).take (n - before)))).or labels[label.id]? := by
  induction xs generalizing labels offset before with
  | nil => rfl
  | cons x rest ih =>
    rw [marksFrom, List.map_cons, positionFrom?]
    cases hmark : x.1.mark? with
    | some l =>
      rw [Instruction.size_mark hmark, Nat.add_zero, ih _ _ before, getElem?_placeMark, hmark, real_cons_mark hmark]
      dsimp only
      cases hrest : positionFrom? label before (rest.map Prod.fst) with
      | some n => rfl
      | none =>
        -- no later mark of the label, so this one decides if it is one
        by_cases hl : l = label
        · rw [if_pos (congrArg some hl), if_pos hl, Option.none_or, Option.map_some, Nat.sub_self]
          rfl
        · rw [if_neg fun h => hl (Option.some.inj h), if_neg hl, Option.none_or]
    | none =>
      have hplace : placeMark labels (wrap offset) x.1 = labels := by
        cases hx : x.1 <;> rw [hx] at hmark <;> first | rfl | cases hmark
      rw [ih _ _ (before + 1), hplace, real_cons_real hmark]
      dsimp only
      cases hrest : positionFrom? label (before + 1) (rest.map Prod.fst) with
      | none => rfl
      | some n =>
        have hle := le_of_positionFrom? hrest
        have hn : n - before = n - (before + 1) + 1 := by omega
        rw [Option.map_some, Option.map_some, hn, List.take_succ_cons, endFrom]

/-- **The offset of a label**, if it is marked, is where the instructions in front of its last mark end. -/
theorem offsetOf_laid (xs : List (Instruction Label × Bool)) (label : Label) :
    (laid xs).offsetOf label =
      match positionFrom? label 0 (xs.map Prod.fst) with
      | some n => .ok (wrap (startOf xs n))
      | none => .error (.unplacedLabel label.id) := by
  have hlabels := getElem?_marksFrom ∅ 0 0 xs label
  rw [Std.TreeMap.getElem?_emptyc, Option.or_none] at hlabels
  rw [offsetOf, laid, hlabels]
  cases positionFrom? label 0 (xs.map Prod.fst) <;> rfl

theorem offsetOf_of (hlen : long.length = is.length) (label : Label) :
    (of is long).offsetOf label =
      match positionFrom? label 0 is with
      | some n => .ok (wrap (startOf (is.zip long) n))
      | none => .error (.unplacedLabel label.id) := by
  rw [of_eq, offsetOf_laid, List.map_fst_zip (by omega)]

/-- A label that has a number is found. -/
theorem found_of (hlen : long.length = is.length) {n : Nat} (h : positionFrom? label 0 is = some n) :
    (of is long).Found label := by
  have hoffset := offsetOf_of hlen label
  rw [h] at hoffset
  rw [Found, hoffset, totals_resolve _ label _ hoffset]

/-- Nothing starts behind the end. -/
theorem startOf_le_endFrom (xs : List (Instruction Label × Bool)) (n : Nat) : startOf xs n ≤ endFrom 0 xs := by
  calc startOf xs n
    _ ≤ endFrom (startOf xs n) ((real xs).drop n) := le_endFrom _ _
    _ = endFrom 0 ((real xs).take n ++ (real xs).drop n) := (endFrom_append _ _ _).symm
    _ = endFrom 0 xs := by rw [List.take_append_drop, endFrom_real]

/-- Below 2³² bytes the offsets of labels are exact. -/
theorem offsetOf_laid_of_lt (h : endFrom 0 xs < 4294967296) (label : Label) :
    (laid xs).offsetOf label =
      match positionFrom? label 0 (xs.map Prod.fst) with
      | some n => .ok (startOf xs n)
      | none => .error (.unplacedLabel label.id) := by
  have hkept : ∀ n, wrap (startOf xs n) = startOf xs n :=
    fun n => wrap_of_lt (Nat.lt_of_le_of_lt (startOf_le_endFrom xs n) h)
  simp only [offsetOf_laid, hkept]

/-- A settled layout finds the labels that are marked. -/
theorem Settled.offsetOf_eq {l : Layout} (h : Settled is l xs) (label : Label) :
    l.offsetOf label =
      match positionFrom? label 0 is with
      | some n => .ok (startOf xs n)
      | none => .error (.unplacedLabel label.id) := by
  rw [h.eq, offsetOf_laid_of_lt h.small, h.instructions]

theorem Settled.found_iff {l : Layout} (h : Settled is l xs) (label : Label) :
    l.Found label ↔ ∃ n, positionFrom? label 0 is = some n := by
  have hoffset := h.offsetOf_eq label
  constructor
  · intro hfound
    cases hposition : positionFrom? label 0 is with
    | some n => exact ⟨n, rfl⟩
    | none =>
      rw [hfound, hposition] at hoffset
      cases hoffset
  · rintro ⟨n, hn⟩
    rw [hn] at hoffset
    rw [Found, hoffset, l.totals_resolve label _ hoffset]

/-! ## Instructions -/

theorem getElem?_placed (offset : Nat) (xs : List (Instruction Label × Bool)) (i : Nat) :
    (placed offset xs)[i]? = xs[i]?.map fun x => ⟨endFrom offset (xs.take i), x.2, x.1⟩ := by
  induction xs generalizing offset i with
  | nil => rfl
  | cons x rest ih =>
    cases i with
    | zero => rfl
    | succ i => exact ih _ i

/-- **The offset of an instruction** is where the instructions in front of it end. -/
theorem getElem?_realSteps (xs : List (Instruction Label × Bool)) (n : Nat) :
    (realSteps (placed 0 xs))[n]? = (real xs)[n]?.map fun x => ⟨startOf xs n, x.2, x.1⟩ := by
  rw [realSteps_placed, getElem?_placed]
  rfl

/-- The number of an instruction is that of the instructions in front of it. -/
theorem offset_of_getElem?_placed {i : Nat} {s : PlacedInstruction} (h : (placed 0 xs)[i]? = some s) :
    s.offset = startOf xs (real (xs.take i)).length := by
  rw [getElem?_placed] at h
  obtain ⟨x, -, rfl⟩ := Option.map_eq_some_iff.mp h
  have hsplit : real xs = real (xs.take i) ++ real (xs.drop i) := by
    rw [← real_append, List.take_append_drop]
  rw [startOf, hsplit, List.take_left, endFrom_real]

theorem startOf_eq_endFrom (xs : List (Instruction Label × Bool)) {m n : Nat} (h : m ≤ n) :
    startOf xs n = endFrom (startOf xs m) (((real xs).drop m).take (n - m)) := by
  rw [startOf, startOf, ← endFrom_append, ← List.take_add, Nat.add_sub_cancel' h]

theorem startOf_le (xs : List (Instruction Label × Bool)) {m n : Nat} (h : m ≤ n) : startOf xs m ≤ startOf xs n := by
  rw [startOf_eq_endFrom xs h]
  exact le_endFrom _ _

/-- An instruction takes bytes, so the next one starts behind it. -/
theorem startOf_lt {m n : Nat} (h : m < n) (hm : m < (real xs).length) : startOf xs m < startOf xs n := by
  refine Nat.lt_of_lt_of_le ?_ (startOf_le xs h)
  have hreal : (real xs)[m].1.mark? = none :=
    Option.isNone_iff_eq_none.mp (List.mem_filter.mp (List.getElem_mem hm)).2
  have hone : ((real xs).drop m).take 1 = [(real xs)[m]] := by
    rw [List.drop_eq_getElem_cons hm]
    rfl
  have hstep : m + 1 - m = 1 := Nat.add_sub_cancel_left m 1
  rw [startOf_eq_endFrom xs (Nat.le_add_right m 1), hstep, hone]
  exact Nat.lt_add_of_pos_right (Instruction.size_pos hreal _ _)

/-- The steps are the instructions with their choices. -/
theorem mem_of_mem_placed {offset : Nat} {s : PlacedInstruction} (h : s ∈ placed offset xs) :
    (s.instruction, s.long) ∈ xs := by
  have hmem := List.mem_map_of_mem (f := fun s : PlacedInstruction => (s.instruction, s.long)) h
  rwa [map_placed] at hmem

theorem length_placed (offset : Nat) (xs : List (Instruction Label × Bool)) :
    (placed offset xs).length = xs.length := by
  calc (placed offset xs).length
    _ = ((placed offset xs).map fun s => (s.instruction, s.long)).length := (List.length_map _).symm
    _ = xs.length := by rw [map_placed]

theorem mem_of_mem_steps {s : PlacedInstruction} (h : s ∈ (of is long).steps) :
    (s.instruction, s.long) ∈ is.zip long := by
  have hmem := List.mem_map_of_mem (f := fun s : PlacedInstruction => (s.instruction, s.long)) h
  rwa [of_eq, map_steps_laid] at hmem

/-- A layout has the instructions that it was made for. -/
theorem map_instruction_of (hlen : long.length = is.length) :
    (of is long).steps.map PlacedInstruction.instruction = is := by
  have hsteps := congrArg (List.map Prod.fst) (map_steps_laid (is.zip long))
  rwa [List.map_map, List.map_fst_zip (Nat.le_of_eq hlen.symm), ← of_eq] at hsteps

theorem length_steps_of (hlen : long.length = is.length) : (of is long).steps.length = is.length := by
  calc (of is long).steps.length
    _ = ((of is long).steps.map PlacedInstruction.instruction).length := (List.length_map _).symm
    _ = is.length := by rw [map_instruction_of hlen]

/-- A layout has the choice that it was made for. -/
theorem map_long_of (hlen : long.length = is.length) : (of is long).steps.map PlacedInstruction.long = long := by
  have hsteps := congrArg (List.map Prod.snd) (map_steps_laid (is.zip long))
  rwa [List.map_map, List.map_snd_zip (Nat.le_of_eq hlen), ← of_eq] at hsteps

end ClassWeaver.Layout
