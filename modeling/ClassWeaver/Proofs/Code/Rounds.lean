import Mathlib.Algebra.GroupWithZero.Nat
import ClassWeaver.Proofs.Code.Relaxation

/-!
# Rounds of a layout

A layout is computed anew in every round, from the choice of long jumps that the round before asked for. Distances go
both ways between two rounds, as a switch can swallow what a jump in front of it grew by; the choice does not, so the
jumps with a long form bound the number of rounds. What a layout promises is read off the last round, which asked for
the choice that it was made with.

## Contents

* `Relaxes` — rounds as a relation: how many there are, and what they come to.
* `LastMark` — the last of the marks that place a label.
* `LaysOut` — offsets are running sums, labels are at their last marks, and every short jump reaches.
* `layout_relaxes` — the rounds end in time, and a layout that they end with is as described.
* `far` — a body that takes all the rounds there are.
-/

namespace ClassWeaver

namespace Layout

variable {is : List (Instruction Label)} {xs : List (Instruction Label × Bool)} {long next : List Bool}
  {result : Except Defect Layout} {label : Label} {offset n : Nat}

/-! ## Rounds as a relation -/

/-- Rounds that start with a choice of long jumps, how many they are, and what the last of them comes to. -/
inductive Relaxes (is : List (Instruction Label)) : Nat → List Bool → Except Defect Layout → Prop
  /-- A label is not placed, or a jump without a long form does not reach. -/
  | refused {long : List Bool} {e : Defect} (h : (of is long).lengthen = .error e) : Relaxes is 1 long (.error e)
  /-- The choice is asked for again. -/
  | settled {long : List Bool} (h : (of is long).lengthen = .ok long) : Relaxes is 1 long (.ok (of is long))
  /-- Another choice is asked for, and the next round is made with it. -/
  | lengthened {long next : List Bool} {n : Nat} {result : Except Defect Layout}
    (h : (of is long).lengthen = .ok next) (hchanged : next ≠ long) (hrest : Relaxes is n next result) :
    Relaxes is (n + 1) long result

/-- A round decides what follows it. -/
theorem Relaxes.unique {m n : Nat} {result result' : Except Defect Layout} (h : Relaxes is m long result)
    (h' : Relaxes is n long result') : m = n ∧ result = result' := by
  induction h generalizing n with
  | refused h =>
    cases h' with
    | refused hagain => rw [h] at hagain; cases hagain; exact ⟨rfl, rfl⟩
    | settled hagain => rw [h] at hagain; cases hagain
    | lengthened hagain => rw [h] at hagain; cases hagain
  | settled h =>
    cases h' with
    | refused hagain => rw [h] at hagain; cases hagain
    | settled => exact ⟨rfl, rfl⟩
    | lengthened hagain hchanged =>
      rw [h] at hagain
      cases hagain
      exact absurd rfl hchanged
  | lengthened h hchanged _ ih =>
    cases h' with
    | refused hagain => rw [h] at hagain; cases hagain
    | settled hagain =>
      rw [h] at hagain
      cases hagain
      exact absurd rfl hchanged
    | lengthened hagain _ hrest =>
      rw [h] at hagain
      cases hagain
      obtain ⟨rfl, rfl⟩ := ih hrest
      exact ⟨rfl, rfl⟩

/-- Rounds that come to something within `fuel` are that many at most. -/
theorem exists_relaxes_of_rounds {fuel : Nat} (h : rounds is fuel long = some result) :
    ∃ n ≤ fuel, Relaxes is n long result := by
  -- one round for each unit of fuel that was used, the last round included
  induction fuel generalizing long with
  | zero => cases h
  | succ fuel ih =>
    rw [rounds] at h
    cases hnext : (of is long).lengthen with
    | error e =>
      rw [hnext] at h
      cases h
      exact ⟨1, Nat.le_add_left 1 fuel, .refused hnext⟩
    | ok next =>
      rw [hnext] at h
      dsimp only at h
      split at h
      · rename_i hsame
        cases h
        exact ⟨1, Nat.le_add_left 1 fuel, .settled (hnext.trans (congrArg _ hsame))⟩
      · rename_i hchanged
        obtain ⟨n, hn, hrest⟩ := ih h
        exact ⟨n + 1, Nat.succ_le_succ hn, .lengthened hnext hchanged hrest⟩

/-- **The rounds of a body** are one more than its jumps with a long form at most, and come to its layout. -/
theorem relaxes_layout (b : MethodBody) :
    ∃ n ≤ b.instructions.countP Instruction.isWidenable + 1,
      Relaxes b.instructions n (b.instructions.map fun _ => false) b.layout := by
  have hnone : ∀ x ∈ b.instructions.zip (b.instructions.map fun _ => false), x.2 = true →
      x.1.isWidenable = true := by
    intro x hx hlong
    obtain ⟨i, -, hi⟩ := List.mem_map.mp (List.of_mem_zip hx).2
    rw [hlong] at hi
    cases hi
  have hends : rounds b.instructions (b.instructions.countP Instruction.isWidenable + 1)
      (b.instructions.map fun _ => false) ≠ none := rounds_ne_none (List.length_map _) hnone (by omega)
  obtain ⟨result, hresult⟩ := Option.ne_none_iff_exists'.mp hends
  rw [MethodBody.layout, hresult, Option.getD_some]
  exact exists_relaxes_of_rounds hresult

/-! ## Running sums -/

theorem take_placed (offset : Nat) (xs : List (Instruction Label × Bool)) (i : Nat) :
    (placed offset xs).take i = placed offset (xs.take i) := by
  induction xs generalizing offset i with
  | nil => rw [List.take_nil, placed, List.take_nil]
  | cons x rest ih =>
    cases i with
    | zero => rfl
    | succ i => rw [placed, List.take_succ_cons, List.take_succ_cons, placed, ih]

/-- **The offset of an instruction** is what 32 bits keep of the sum of the sizes in front of it. -/
theorem offset_eq_sum {i : Nat} {s : PlacedInstruction} (h : (laid xs).steps[i]? = some s) :
    s.offset = wrap (((laid xs).steps.take i).map PlacedInstruction.size).sum := by
  rw [laid, List.getElem?_map, getElem?_placed, Option.map_map] at h
  obtain ⟨x, -, rfl⟩ := Option.map_eq_some_iff.mp h
  rw [laid, ← List.map_take, map_size_wrap, take_placed]
  show wrap (endFrom 0 (xs.take i)) = _
  rw [endFrom_eq_sum, Nat.zero_add]

/-- No part of the instructions takes more bytes than all of them. -/
theorem sum_take_le_span (l : Layout) (i : Nat) : ((l.steps.take i).map PlacedInstruction.size).sum ≤ l.span := by
  calc ((l.steps.take i).map PlacedInstruction.size).sum
    _ ≤ ((l.steps.take i).map PlacedInstruction.size).sum + ((l.steps.drop i).map PlacedInstruction.size).sum :=
      Nat.le_add_right _ _
    _ = l.span := by rw [← List.sum_append, ← List.map_append, List.take_append_drop, span]

/-! ## Last marks -/

/-- The last of the marks that place a label is at the offset. -/
def LastMark (steps : List PlacedInstruction) (label : Label) (offset : Nat) : Prop :=
  ∃ before s after, steps = before ++ s :: after ∧ s.instruction = .mark label ∧ s.offset = offset ∧
    ∀ t ∈ after, t.instruction ≠ .mark label

/-- The last mark is in the rest, or it is the first instruction and none follows. -/
theorem lastMark_cons {s : PlacedInstruction} {steps : List PlacedInstruction} :
    LastMark (s :: steps) label offset ↔ LastMark steps label offset ∨
      (s.instruction = .mark label ∧ s.offset = offset ∧ ∀ t ∈ steps, t.instruction ≠ .mark label) := by
  constructor
  · rintro ⟨before, t, after, heq, hmark, hoffset, hlast⟩
    cases before with
    | nil =>
      obtain ⟨rfl, rfl⟩ := List.cons.inj heq
      exact .inr ⟨hmark, hoffset, hlast⟩
    | cons u before =>
      obtain ⟨rfl, rfl⟩ := List.cons.inj heq
      exact .inl ⟨before, t, after, rfl, hmark, hoffset, hlast⟩
  · rintro (⟨before, t, after, rfl, hmark, hoffset, hlast⟩ | ⟨hmark, hoffset, hlast⟩)
    · exact ⟨s :: before, t, after, rfl, hmark, hoffset, hlast⟩
    · exact ⟨[], s, steps, rfl, hmark, hoffset, hlast⟩

/-- The marks leave a label at its last mark, or where it was if there is none. -/
theorem getElem?_marksFrom_eq_some (labels : Std.TreeMap Nat Nat) (start : Nat) (xs : List (Instruction Label × Bool))
    (label : Label) (offset : Nat) :
    (marksFrom labels start xs)[label.id]? = some offset ↔
      LastMark ((placed start xs).map PlacedInstruction.wrap) label offset ∨
        ((∀ s ∈ (placed start xs).map PlacedInstruction.wrap, s.instruction ≠ .mark label) ∧
          labels[label.id]? = some offset) := by
  -- labels that are marked already give way to a mark of the rest
  induction xs generalizing labels start with
  | nil => simp [marksFrom, placed, LastMark]
  | cons x rest ih =>
    rw [marksFrom, ih, getElem?_placeMark, placed, List.map_cons, lastMark_cons, List.forall_mem_cons]
    by_cases hmark : x.1 = .mark label
    · rw [if_pos (Instruction.mark?_eq_some_iff.mpr hmark), Option.some.injEq]
      simp [hmark, and_comm, PlacedInstruction.wrap]
    · rw [if_neg fun hsome => hmark (Instruction.mark?_eq_some_iff.mp hsome)]
      simp [hmark, PlacedInstruction.wrap]

/-- **The offset of a label** is that of its last mark. -/
theorem Chosen.offsetOf_eq_ok {l : Layout} (h : Chosen is l xs) :
    l.offsetOf label = .ok offset ↔ LastMark l.steps label offset := by
  have hmarks := getElem?_marksFrom_eq_some ∅ 0 xs label offset
  rw [Std.TreeMap.getElem?_emptyc] at hmarks
  rw [h.eq, offsetOf, laid]
  cases hfound : (marksFrom ∅ 0 xs)[label.id]? with
  | none => simpa [hfound] using hmarks
  | some found => simpa [hfound] using hmarks

/-! ## What a layout promises -/

/-- The instructions of a list are placed one behind the other, labels are where their last marks are, and whatever
jump is not long reaches its target. -/
structure LaysOut (is : List (Instruction Label)) (l : Layout) : Prop where
  instructions : l.steps.map PlacedInstruction.instruction = is
  offset : ∀ i s, l.steps[i]? = some s → s.offset = wrap ((l.steps.take i).map PlacedInstruction.size).sum
  length : l.length = wrap (l.steps.map PlacedInstruction.size).sum
  /-- Below 2³² bytes the sums are kept whole. -/
  whole : (l.steps.map PlacedInstruction.size).sum < 4294967296 →
    (∀ i s, l.steps[i]? = some s → s.offset = ((l.steps.take i).map PlacedInstruction.size).sum) ∧
      l.length = (l.steps.map PlacedInstruction.size).sum
  label : ∀ label offset, l.offsetOf label = .ok offset ↔ LastMark l.steps label offset
  long : ∀ s ∈ l.steps, s.long = true → ∃ op target, s.instruction = .jump op target ∧
    (op = Opcode.goto ∨ op = Opcode.jsr)
  reaches : ∀ s ∈ l.steps, s.long = false → ∀ op target, s.instruction = .jump op target →
    ∃ offset, l.offsetOf target = .ok offset ∧
      -32768 ≤ (offset : Int) - s.offset ∧ (offset : Int) - s.offset ≤ 32767

theorem exists_jump_of_isWidenable {i : Instruction Label} (h : i.isWidenable = true) :
    ∃ op target, i = .jump op target ∧ (op = Opcode.goto ∨ op = Opcode.jsr) := by
  cases i with
  | jump op target => exact ⟨op, target, rfl, by simpa [Instruction.isWidenable, Opcode.isWidenable] using h⟩
  | _ => cases h

/-- A jump that may stay short is near its target. -/
theorem reaches_of_needsLong {l : Layout} {s : PlacedInstruction} {op : UInt8} {target : Label}
    (hjump : s.instruction = .jump op target) (h : l.needsLong s = .ok false) :
    ∃ offset, l.offsetOf target = .ok offset ∧
      -32768 ≤ (offset : Int) - s.offset ∧ (offset : Int) - s.offset ≤ 32767 := by
  rw [needsLong, hjump] at h
  split at h
  · cases h
  · dsimp only at h
    split at h
    · cases h
    · rename_i offset hoffset
      split at h
      · rename_i hfits
        exact ⟨offset, hoffset, by simpa [fitsInWord] using hfits⟩
      · split at h <;> cases h

/-- **A layout that is chosen** keeps what a layout promises. -/
theorem Chosen.laysOut {l : Layout} (h : Chosen is l xs) : l.LaysOut is := by
  have hoffset : ∀ i s, l.steps[i]? = some s →
      s.offset = wrap ((l.steps.take i).map PlacedInstruction.size).sum := by
    intro i s hs
    rw [h.eq] at hs ⊢
    exact offset_eq_sum hs
  have hlength : l.length = wrap l.span := by rw [h.eq, span_laid, laid]
  refine ⟨?_, hoffset, hlength, ?_, fun _ _ => h.offsetOf_eq_ok, ?_, ?_⟩
  · rw [h.eq, ← h.instructions]
    conv => rhs; rw [← map_steps_laid xs, List.map_map]
    rfl
  · intro hspan
    refine ⟨fun i s hs => ?_, hlength.trans (wrap_of_lt hspan)⟩
    rw [hoffset i s hs, wrap_of_lt (Nat.lt_of_le_of_lt (l.sum_take_le_span i) hspan)]
  · exact fun s hs hlong => exists_jump_of_isWidenable (h.widenable s hs hlong)
  · exact fun s hs hshort _ _ hjump => reaches_of_needsLong hjump (hshort ▸ h.needsLong s hs)

end Layout

namespace MethodBody

open Layout (Relaxes)

/-- **Laying a body out** takes no more rounds than one for each jump with a long form and one more, and what those
rounds come to is the layout of the body; a layout that is found places the instructions as described. -/
theorem layout_relaxes (b : MethodBody) :
    (∃ n ≤ b.instructions.countP Instruction.isWidenable + 1, ∀ m result,
      Relaxes b.instructions m (b.instructions.map fun _ => false) result ↔ m = n ∧ result = b.layout) ∧
    ∀ l, b.layout = .ok l → l.LaysOut b.instructions := by
  constructor
  · obtain ⟨n, hn, hrelaxes⟩ := Layout.relaxes_layout b
    refine ⟨n, hn, fun m result => ⟨fun h => h.unique hrelaxes, ?_⟩⟩
    rintro ⟨rfl, rfl⟩
    exact hrelaxes
  · intro l hl
    obtain ⟨xs, hchosen⟩ := Layout.layout_chosen hl
    exact hchosen.laysOut

/-! ## A body that takes all the rounds -/

/-- A `goto` past a switch with the given number of targets. -/
def far (n : Nat) : MethodBody :=
  { empty 0 0 with
    instructions := [.jump Opcode.goto ⟨0⟩, .tableSwitch ⟨0⟩ 0 (Int32.ofNat (n - 1)) (List.replicate n ⟨0⟩),
      .mark ⟨0⟩, .simple Opcode.voidReturn]
    nextLabel := 1 }

/-- Where the switch of `far` ends; its padding depends on the `goto`. -/
theorem offsetOf_far {n : Nat} (h : 20 + 4 * n < 4294967296) (long : Bool) :
    (Layout.of (far n).instructions [long, false, false, false]).offsetOf ⟨0⟩ =
      .ok (if long then 20 + 4 * n else 16 + 4 * n) := by
  have hposition : Layout.positionFrom? ⟨0⟩ 0 (far n).instructions = some 2 := rfl
  rw [Layout.offsetOf_of rfl, hposition]
  dsimp only
  have hstart : Layout.startOf ((far n).instructions.zip [long, false, false, false]) 2 =
      if long then 20 + 4 * n else 16 + 4 * n := by
    cases long <;>
      simp [far, Layout.startOf, Layout.real, Layout.endFrom, Instruction.mark?, Instruction.size, switchPadding] <;>
      omega
  rw [hstart, Layout.wrap_of_lt (by split <;> omega)]

/-- A first round that finds the `goto` out of reach, and a second one that is content. -/
theorem relaxes_far {n : Nat} (h : 32767 < 16 + 4 * n) (hsmall : 20 + 4 * n < 4294967296) :
    Relaxes (far n).instructions 2 [false, false, false, false]
      (.ok (Layout.of (far n).instructions [true, false, false, false])) := by
  have hsteps : ∀ long, ∃ offset offset' offset'',
      (Layout.of (far n).instructions [long, false, false, false]).steps =
        [⟨0, long, .jump Opcode.goto ⟨0⟩⟩,
          ⟨offset, false, .tableSwitch ⟨0⟩ 0 (Int32.ofNat (n - 1)) (List.replicate n ⟨0⟩)⟩,
          ⟨offset', false, .mark ⟨0⟩⟩, ⟨offset'', false, .simple Opcode.voidReturn⟩] := fun _ => ⟨_, _, _, rfl⟩
  have hfar : fitsInWord (((16 + 4 * n : Nat) : Int) - (0 : Nat)) = false := by
    simp [fitsInWord]
    omega
  have hfirst : (Layout.of (far n).instructions [false, false, false, false]).lengthen =
      .ok [true, false, false, false] := by
    obtain ⟨_, _, _, hfalse⟩ := hsteps false
    have hoffset : _ = Except.ok (16 + 4 * n) := offsetOf_far hsmall false
    rw [Layout.lengthen, hfalse]
    simp only [List.mapM_cons, List.mapM_nil, Layout.needsLong, hoffset, hfar]
    rfl
  have hsecond : (Layout.of (far n).instructions [true, false, false, false]).lengthen =
      .ok [true, false, false, false] := by
    obtain ⟨_, _, _, htrue⟩ := hsteps true
    rw [Layout.lengthen, htrue]
    rfl
  exact .lengthened hfirst (by decide) (.settled hsecond)

/-- With 8188 targets the switch is too long for a short jump, and the rounds are as many as they can be. -/
theorem laid_out_far :
    (far 8188).instructions.countP Instruction.isWidenable + 1 = 2 ∧
      ∃ l, Relaxes (far 8188).instructions 2 [false, false, false, false] (.ok l) ∧ (far 8188).layout = .ok l ∧
        l.offsetOf ⟨0⟩ = .ok 32772 ∧ l.LaysOut (far 8188).instructions := by
  obtain ⟨⟨n, -, hrounds⟩, hlaysOut⟩ := layout_relaxes (far 8188)
  have hrelaxes := relaxes_far (n := 8188) (by decide) (by decide)
  have hlayout := ((hrounds 2 _).mp hrelaxes).2.symm
  exact ⟨rfl, _, hrelaxes, hlayout, offsetOf_far (by decide) true, hlaysOut _ hlayout⟩

end MethodBody

end ClassWeaver
