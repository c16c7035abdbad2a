import ClassWeaver.Code.Layout
import ClassWeaver.Proofs.Code.Positions
import Mathlib.Algebra.GroupWithZero.Nat

/-!
# Layouts

A layout is three things computed at once: where each instruction goes, where each label is, and how long the code
is. Here they are taken apart, and the layout that the rounds end with is shown to be chosen: one more round would
choose the same long jumps. Offsets are kept to 32 bits, so they are the sums of the sizes in front of them as long as
all instructions together take fewer than 2³² bytes, and the layout is then called settled. What its offsets say about
order and what its labels say about positions follows from the instructions taking one byte at least, marks excepted.

## Contents

* `placed`, `marksFrom`, `endFrom` — where instructions go if offsets have no limit.
* `laid`, `of_eq` — a layout in these parts, kept to 32 bits.
* `Chosen`, `layout_chosen` — what is known of every layout that was found.
* `span`, `Settled`, `layout_settled` — and what is known below 2³² bytes.
* `realSteps`, `Boundary`, `pairwise_placed` — the order of offsets.
* `positionFrom?`, `positionFrom?_placed` — where a label is, in instructions and in bytes.
-/

namespace ClassWeaver

theorem Instruction.size_mark {π : Type} {i : Instruction π} {p : π} (h : i.mark? = some p) (offset : Nat)
    (long : Bool) : i.size offset long = 0 := by
  cases i with
  | mark p => rfl
  | _ => cases h

/-- Only marks take no bytes. -/
theorem Instruction.size_pos {π : Type} {i : Instruction π} (h : i.mark? = none) (offset : Nat) (long : Bool) :
    0 < i.size offset long := by
  cases i with
  | mark p => cases h
  | push op value | constant index twoSlots | increment index delta | jump op target =>
    simp only [size]
    split <;> omega
  | localVar op index =>
    simp only [size]
    split
    · omega
    · split <;> omega
  | _ =>
    simp only [size]
    omega

/-- Padding depends on the last two bits of an offset, so sizes do not see that offsets are kept to 32 bits. -/
theorem Instruction.size_wrap {π : Type} (i : Instruction π) (offset : Nat) (long : Bool) :
    i.size (Layout.wrap offset) long = i.size offset long := by
  cases i with
  | tableSwitch | lookupSwitch =>
    simp only [size, switchPadding, Layout.wrap]
    omega
  | _ => rfl

/-- The bytes that a placed instruction takes. -/
def PlacedInstruction.size (s : PlacedInstruction) : Nat :=
  s.instruction.size s.offset s.long

/-- The instruction at what 32 bits keep of its offset. -/
def PlacedInstruction.wrap (s : PlacedInstruction) : PlacedInstruction :=
  { s with offset := Layout.wrap s.offset }

theorem PlacedInstruction.size_wrap (s : PlacedInstruction) : s.wrap.size = s.size :=
  s.instruction.size_wrap s.offset s.long

namespace Layout

variable {is : List (Instruction Label)} {xs : List (Instruction Label × Bool)} {offset : Nat}

/-! ## A layout in parts -/

theorem wrap_add (offset n : Nat) : wrap (wrap offset + n) = wrap (offset + n) :=
  Nat.mod_add_mod ..

theorem wrap_of_lt (h : offset < 4294967296) : wrap offset = offset :=
  Nat.mod_eq_of_lt h

/-- Instructions one after the other from an offset on. -/
def placed (offset : Nat) : List (Instruction Label × Bool) → List PlacedInstruction
  | [] => []
  | (i, long) :: rest => ⟨offset, long, i⟩ :: placed (offset + i.size offset long) rest

/-- The labels that the marks among instructions place. -/
def marksFrom (labels : Std.TreeMap Nat Nat) (offset : Nat) : List (Instruction Label × Bool) → Std.TreeMap Nat Nat
  | [] => labels
  | (i, long) :: rest => marksFrom (placeMark labels (wrap offset) i) (offset + i.size offset long) rest

/-- Where instructions end. -/
def endFrom (offset : Nat) : List (Instruction Label × Bool) → Nat
  | [] => offset
  | (i, long) :: rest => endFrom (offset + i.size offset long) rest

/-- The layout of instructions with their forms. -/
def laid (xs : List (Instruction Label × Bool)) : Layout :=
  ⟨(placed 0 xs).map PlacedInstruction.wrap, marksFrom ∅ 0 xs, wrap (endFrom 0 xs)⟩

theorem placeFrom_eq (steps : List PlacedInstruction) (labels : Std.TreeMap Nat Nat) (offset : Nat)
    (xs : List (Instruction Label × Bool)) :
    placeFrom steps labels (wrap offset) xs = ⟨steps.reverse ++ (placed offset xs).map PlacedInstruction.wrap,
      marksFrom labels offset xs, wrap (endFrom offset xs)⟩ := by
  induction xs generalizing steps labels offset with
  | nil => simp [placeFrom, placed, marksFrom, endFrom]
  | cons x rest ih =>
    rw [placeFrom, Instruction.size_wrap, wrap_add, ih]
    simp [placed, marksFrom, endFrom, PlacedInstruction.wrap]

theorem of_eq (is : List (Instruction Label)) (long : List Bool) : of is long = laid (is.zip long) :=
  placeFrom_eq [] ∅ 0 (is.zip long)

theorem map_placed (offset : Nat) (xs : List (Instruction Label × Bool)) :
    (placed offset xs).map (fun s => (s.instruction, s.long)) = xs := by
  induction xs generalizing offset with
  | nil => rfl
  | cons x rest ih => rw [placed, List.map_cons, ih]

/-- The steps of a layout are the instructions with their forms. -/
theorem map_steps_laid (xs : List (Instruction Label × Bool)) :
    (laid xs).steps.map (fun s => (s.instruction, s.long)) = xs := by
  rw [laid, List.map_map]
  exact map_placed 0 xs

theorem le_endFrom (offset : Nat) (xs : List (Instruction Label × Bool)) : offset ≤ endFrom offset xs := by
  induction xs generalizing offset with
  | nil => exact Nat.le_refl offset
  | cons x rest ih => exact Nat.le_trans (Nat.le_add_right _ _) (ih _)

/-- Every instruction lies between the first offset and the end. -/
theorem bounds_of_mem_placed {s : PlacedInstruction} (h : s ∈ placed offset xs) :
    offset ≤ s.offset ∧ s.offset + s.instruction.size s.offset s.long ≤ endFrom offset xs := by
  induction xs generalizing offset with
  | nil => cases h
  | cons x rest ih =>
    rcases List.mem_cons.mp h with rfl | h
    · exact ⟨Nat.le_refl offset, le_endFrom _ rest⟩
    · obtain ⟨hstart, hstop⟩ := ih h
      exact ⟨Nat.le_trans (Nat.le_add_right _ _) hstart, hstop⟩

/-- Instructions end behind the bytes of all of them. -/
theorem endFrom_eq_sum (offset : Nat) (xs : List (Instruction Label × Bool)) :
    endFrom offset xs = offset + ((placed offset xs).map PlacedInstruction.size).sum := by
  induction xs generalizing offset with
  | nil => rfl
  | cons x rest ih =>
    rw [endFrom, ih, placed, List.map_cons, List.sum_cons, ← Nat.add_assoc]
    rfl

/-- The bytes that the instructions of a layout take, however many they are. -/
def span (l : Layout) : Nat :=
  (l.steps.map PlacedInstruction.size).sum

theorem map_size_wrap (steps : List PlacedInstruction) :
    (steps.map PlacedInstruction.wrap).map PlacedInstruction.size = steps.map PlacedInstruction.size := by
  rw [List.map_map]
  exact List.map_congr_left fun s _ => s.size_wrap

theorem span_laid (xs : List (Instruction Label × Bool)) : (laid xs).span = endFrom 0 xs := by
  rw [span, laid, map_size_wrap, endFrom_eq_sum, Nat.zero_add]

/-- Below 2³² bytes nothing is lost of an offset. -/
theorem steps_laid (h : endFrom 0 xs < 4294967296) : (laid xs).steps = placed 0 xs := by
  have hkept : ∀ s ∈ placed 0 xs, s.wrap = s := by
    intro s hs
    have hstop := (bounds_of_mem_placed hs).2
    rw [PlacedInstruction.wrap, wrap_of_lt (by omega)]
  rw [laid, List.map_congr_left hkept, List.map_id']

/-! ## Layouts that are found -/

/-- The layout of instructions for a choice of long jumps, all of which have long forms, that another round would
choose again. -/
structure Chosen (is : List (Instruction Label)) (l : Layout) (xs : List (Instruction Label × Bool)) : Prop where
  instructions : xs.map Prod.fst = is
  eq : l = laid xs
  widenable : ∀ s ∈ l.steps, s.long = true → s.instruction.isWidenable = true
  needsLong : ∀ s ∈ l.steps, l.needsLong s = .ok s.long

/-- Such a layout of fewer than 2³² bytes. -/
structure Settled (is : List (Instruction Label)) (l : Layout) (xs : List (Instruction Label × Bool)) : Prop
    extends Chosen is l xs where
  small : endFrom 0 xs < 4294967296

theorem Chosen.settled {l : Layout} (h : Chosen is l xs) (hspan : l.span < 4294967296) : Settled is l xs where
  toChosen := h
  small := by rwa [h.eq, span_laid] at hspan

theorem Settled.steps_eq {l : Layout} (h : Settled is l xs) : l.steps = placed 0 xs := by
  rw [h.eq, steps_laid h.small]

theorem Settled.length_eq {l : Layout} (h : Settled is l xs) : l.length = endFrom 0 xs := by
  rw [h.eq, laid, wrap_of_lt h.small]

/-- An instruction that has to be long and is not yet can be made so. -/
theorem isWidenable_of_needsLong {l : Layout} {s : PlacedInstruction} (h : l.needsLong s = .ok true)
    (hs : s.long = false) : s.instruction.isWidenable = true := by
  rw [Layout.needsLong, hs, if_neg Bool.false_ne_true] at h
  cases hi : s.instruction with
  | jump op target =>
    rw [hi] at h
    dsimp only at h
    split at h
    · cases h
    · split at h
      · cases h
      · split at h
        · assumption
        · cases h
  | _ => rw [hi] at h; cases h

/-- One round keeps the choice to jumps that have long forms. -/
theorem lengthen_eq_ok {l : Layout} {long next : List Bool} (hlen : long.length = is.length)
    (hsteps : l.steps.map (fun s => (s.instruction, s.long)) = is.zip long)
    (hwide : ∀ x ∈ is.zip long, x.2 = true → x.1.isWidenable = true) (h : l.lengthen = .ok next) :
    next.length = is.length ∧ (∀ x ∈ is.zip next, x.2 = true → x.1.isWidenable = true) ∧
      (next = long → ∀ s ∈ l.steps, l.needsLong s = .ok s.long) := by
  obtain ⟨hfound, rfl⟩ := ((totals_getD l.needsLong false).mapM_eq_ok).mp h
  have hinstruction : l.steps.map PlacedInstruction.instruction = is := by
    have := congrArg (List.map Prod.fst) hsteps
    rwa [List.map_map, List.map_fst_zip (by omega)] at this
  have hlong : l.steps.map PlacedInstruction.long = long := by
    have := congrArg (List.map Prod.snd) hsteps
    rwa [List.map_map, List.map_snd_zip (by omega)] at this
  -- the next choice is read off the steps, so it lines up with the instructions as they do
  refine ⟨?_, ?_, ?_⟩
  · rw [List.length_map, ← hinstruction, List.length_map]
  · intro x hx hx2
    rw [← hinstruction, List.zip_map', List.mem_map] at hx
    obtain ⟨s, hs, rfl⟩ := hx
    have hneeds : l.needsLong s = .ok true := (hfound s hs).trans (congrArg _ hx2)
    cases hsl : s.long with
    | true => exact hwide (s.instruction, s.long) (hsteps ▸ List.mem_map_of_mem hs) hsl
    | false => exact isWidenable_of_needsLong hneeds hsl
  · intro hsame s hs
    rw [← hlong] at hsame
    rw [hfound s hs]
    exact congrArg Except.ok (List.map_inj_left.mp hsame s hs)

theorem chosen_of_rounds {l : Layout} {fuel : Nat} {long : List Bool} (hlen : long.length = is.length)
    (hwide : ∀ x ∈ is.zip long, x.2 = true → x.1.isWidenable = true) (h : rounds is fuel long = some (.ok l)) :
    ∃ xs, Chosen is l xs := by
  -- induction on the rounds; the invariant is that only jumps with a long form are long
  induction fuel generalizing long with
  | zero => cases h
  | succ fuel ih =>
    rw [rounds] at h
    cases hnext : (of is long).lengthen with
    | error e => rw [hnext] at h; cases h
    | ok next =>
      rw [hnext] at h
      dsimp only at h
      have hsteps : (of is long).steps.map (fun s => (s.instruction, s.long)) = is.zip long := by
        rw [of_eq, map_steps_laid]
      obtain ⟨hlen', hwide', hsettled⟩ := lengthen_eq_ok hlen hsteps hwide hnext
      split at h
      · rename_i hsame
        cases h
        refine ⟨is.zip long, List.map_fst_zip (by omega), of_eq is long, ?_, hsettled hsame⟩
        intro s hs hlong
        exact hwide (s.instruction, s.long) (hsteps ▸ List.mem_map_of_mem hs) hlong
      · exact ih hlen' hwide' h

/-- **A layout that was found** would be chosen again. -/
theorem layout_chosen {b : MethodBody} {l : Layout} (h : b.layout = .ok l) : ∃ xs, Chosen b.instructions l xs := by
  rw [MethodBody.layout] at h
  cases hrounds : rounds b.instructions (b.instructions.countP Instruction.isWidenable + 1)
      (b.instructions.map fun _ => false) with
  | none => rw [hrounds] at h; cases h
  | some result =>
    rw [hrounds, Option.getD_some] at h
    subst h
    refine chosen_of_rounds (List.length_map _) ?_ hrounds
    -- no jump is long at first
    intro x hx hx2
    obtain ⟨-, hmem⟩ := List.of_mem_zip hx
    obtain ⟨i, -, hi⟩ := List.mem_map.mp hmem
    rw [hx2] at hi
    cases hi

/-- **A layout of fewer than 2³² bytes is settled.** -/
theorem layout_settled {b : MethodBody} {l : Layout} (h : b.layout = .ok l) (hspan : l.span < 4294967296) :
    ∃ xs, Settled b.instructions l xs := by
  obtain ⟨xs, hchosen⟩ := layout_chosen h
  exact ⟨xs, hchosen.settled hspan⟩

/-! ## The order of offsets -/

/-- The instructions that are there once the code is written. -/
def realSteps (steps : List PlacedInstruction) : List PlacedInstruction :=
  steps.filter fun s => s.instruction.mark?.isNone

/-- An offset at which an instruction starts or the last one ends. -/
def Boundary (steps : List PlacedInstruction) (stop offset : Nat) : Prop :=
  (∃ s ∈ realSteps steps, s.offset = offset) ∨ offset = stop

/-- The number of instructions in front of an offset. -/
def countBefore (steps : List PlacedInstruction) (offset : Nat) : Nat :=
  (realSteps steps).countP fun s => s.offset < offset

/-- **Every instruction ends where the next one starts, or in front of it.** -/
theorem pairwise_placed (offset : Nat) (xs : List (Instruction Label × Bool)) :
    (placed offset xs).Pairwise fun s t => s.offset + s.instruction.size s.offset s.long ≤ t.offset := by
  induction xs generalizing offset with
  | nil => exact .nil
  | cons x rest ih => exact .cons (fun t ht => (bounds_of_mem_placed ht).1) (ih _)

theorem mem_realSteps {steps : List PlacedInstruction} {s : PlacedInstruction} :
    s ∈ realSteps steps ↔ s ∈ steps ∧ s.instruction.mark? = none := by
  rw [realSteps, List.mem_filter, Option.isNone_iff_eq_none]

theorem realSteps_cons_mark {s : PlacedInstruction} {label : Label} (h : s.instruction.mark? = some label)
    (steps : List PlacedInstruction) : realSteps (s :: steps) = realSteps steps := by
  rw [realSteps, List.filter_cons_of_neg (by rw [h]; exact Bool.false_ne_true)]
  rfl

theorem realSteps_cons_real {s : PlacedInstruction} (h : s.instruction.mark? = none)
    (steps : List PlacedInstruction) : realSteps (s :: steps) = s :: realSteps steps := by
  rw [realSteps, List.filter_cons_of_pos (by rw [h]; rfl)]
  rfl

theorem countBefore_cons_mark {s : PlacedInstruction} {label : Label} (h : s.instruction.mark? = some label)
    (steps : List PlacedInstruction) (offset : Nat) : countBefore (s :: steps) offset = countBefore steps offset := by
  rw [countBefore, realSteps_cons_mark h, countBefore]

theorem boundary_cons_mark {s : PlacedInstruction} {label : Label} (h : s.instruction.mark? = some label)
    (steps : List PlacedInstruction) (stop offset : Nat) :
    Boundary (s :: steps) stop offset ↔ Boundary steps stop offset := by
  rw [Boundary, realSteps_cons_mark h, Boundary]

theorem countBefore_cons_real {s : PlacedInstruction} (h : s.instruction.mark? = none)
    (steps : List PlacedInstruction) {offset : Nat} (hlt : s.offset < offset) :
    countBefore (s :: steps) offset = countBefore steps offset + 1 := by
  rw [countBefore, realSteps_cons_real h, List.countP_cons_of_pos, countBefore]
  exact decide_eq_true hlt

theorem Boundary.cons {steps : List PlacedInstruction} {stop offset : Nat} (h : Boundary steps stop offset)
    (s : PlacedInstruction) : Boundary (s :: steps) stop offset := by
  refine h.imp_left ?_
  rintro ⟨t, ht, rfl⟩
  obtain ⟨hmem, hreal⟩ := mem_realSteps.mp ht
  exact ⟨t, mem_realSteps.mpr ⟨List.mem_cons_of_mem s hmem, hreal⟩, rfl⟩

/-- The offsets of instructions increase, as marks are left out. -/
theorem pairwise_realSteps (offset : Nat) (xs : List (Instruction Label × Bool)) :
    (realSteps (placed offset xs)).Pairwise fun s t => s.offset < t.offset := by
  refine ((pairwise_placed offset xs).filter _).imp_of_mem ?_
  intro s t hs _ hle
  have hpos := Instruction.size_pos (mem_realSteps.mp hs).2 s.offset s.long
  omega

/-- No instruction starts in front of the first offset. -/
theorem countBefore_start (offset : Nat) (xs : List (Instruction Label × Bool)) :
    countBefore (placed offset xs) offset = 0 := by
  rw [countBefore, List.countP_eq_zero]
  intro s hs hlt
  have := (bounds_of_mem_placed (mem_realSteps.mp hs).1).1
  have := of_decide_eq_true hlt
  omega

/-- The first offset is that of the first instruction, or the end. -/
theorem boundary_start (offset : Nat) (xs : List (Instruction Label × Bool)) :
    Boundary (placed offset xs) (endFrom offset xs) offset := by
  induction xs generalizing offset with
  | nil => exact .inr rfl
  | cons x rest ih =>
    cases hmark : x.1.mark? with
    | none => exact .inl ⟨⟨offset, x.2, x.1⟩, mem_realSteps.mpr ⟨List.mem_cons_self, hmark⟩, rfl⟩
    | some label =>
      rw [placed, endFrom, Instruction.size_mark hmark, Nat.add_zero, boundary_cons_mark hmark]
      exact ih offset

/-- What lies at the smaller of two bounds is counted below the larger one only. -/
theorem countP_lt_countP {α : Type} {f : α → Nat} {as : List α} {a : α} {bound : Nat} (ha : a ∈ as) (h : f a < bound) :
    as.countP (f · < f a) < as.countP (f · < bound) := by
  obtain ⟨before, after, rfl⟩ := List.append_of_mem ha
  rw [List.countP_append, List.countP_append, List.countP_cons_of_neg (by simp), List.countP_cons_of_pos (by simpa using h)]
  have hmono : ∀ bs : List α, bs.countP (f · < f a) ≤ bs.countP (f · < bound) := fun bs =>
    List.countP_mono_left fun _ _ hlt => decide_eq_true (Nat.lt_trans (of_decide_eq_true hlt) h)
  have hbefore := hmono before
  have hafter := hmono after
  omega

/-- Between two boundaries there is an instruction. -/
theorem countBefore_lt {steps : List PlacedInstruction} {stop a b : Nat} (ha : Boundary steps stop a)
    (hb : b ≤ stop) (hlt : a < b) : countBefore steps a < countBefore steps b := by
  -- the instruction that starts at the first boundary is counted by the second only
  obtain ⟨s, hs, rfl⟩ := ha.resolve_right (by omega)
  exact countP_lt_countP hs hlt

/-! ## Labels -/

/-- The number of instructions in front of the last mark of a label. -/
def positionFrom? (label : Label) (before : Nat) : List (Instruction Label) → Option Nat
  | [] => none
  | i :: rest =>
    match i.mark? with
    | some l => (positionFrom? label before rest).or (if l = label then some before else none)
    | none => positionFrom? label (before + 1) rest

theorem getElem?_placeMark (labels : Std.TreeMap Nat Nat) (offset : Nat) (i : Instruction Label) (label : Label) :
    (placeMark labels offset i)[label.id]? = if i.mark? = some label then some offset else labels[label.id]? := by
  cases i with
  | mark l =>
    rw [placeMark, Std.TreeMap.getElem?_insert, Instruction.mark?]
    by_cases h : l = label
    · rw [if_pos (by rw [h]; exact Nat.compare_eq_eq.mpr rfl), if_pos (congrArg some h)]
    · have hid : compare l.id label.id ≠ .eq := by
        intro heq
        cases l; cases label
        exact h (congrArg Label.mk (Nat.compare_eq_eq.mp heq))
      rw [if_neg hid, if_neg fun hsome => h (Option.some.inj hsome)]
  | _ => rfl

/-- **Where a label is**: its offset is the boundary with as many instructions in front of it as there are in front
of its last mark. A label without a mark keeps the offset that it had. -/
theorem positionFrom?_placed (labels : Std.TreeMap Nat Nat) (offset before : Nat)
    (xs : List (Instruction Label × Bool)) (label : Label) (hsmall : endFrom offset xs < 4294967296) :
    match positionFrom? label before (xs.map Prod.fst) with
    | none => (marksFrom labels offset xs)[label.id]? = labels[label.id]?
    | some n => ∃ t, (marksFrom labels offset xs)[label.id]? = some t ∧
        Boundary (placed offset xs) (endFrom offset xs) t ∧ offset ≤ t ∧
        n = before + countBefore (placed offset xs) t := by
  induction xs generalizing labels offset before with
  | nil => rfl
  | cons x rest ih =>
    rw [List.map_cons, positionFrom?, marksFrom, placed, endFrom]
    have hkept : wrap offset = offset := wrap_of_lt (Nat.lt_of_le_of_lt (le_endFrom offset (x :: rest)) hsmall)
    rw [hkept]
    cases hmark : x.1.mark? with
    | none =>
      -- an instruction places nothing, and is counted at every later offset
      have hsize := Instruction.size_pos hmark offset x.2
      have hkeep := getElem?_placeMark labels offset x.1 label
      rw [hmark, if_neg nofun] at hkeep
      specialize ih (placeMark labels offset x.1) (offset + x.1.size offset x.2) (before + 1) hsmall
      dsimp only
      cases hrest : positionFrom? label (before + 1) (rest.map Prod.fst) with
      | none => rw [hrest] at ih; exact ih.trans hkeep
      | some n =>
        rw [hrest] at ih
        obtain ⟨t, ht, hboundary, hle, rfl⟩ := ih
        refine ⟨t, ht, hboundary.cons _, by omega, ?_⟩
        rw [countBefore_cons_real hmark _ (by dsimp only; omega)]
        omega
    | some l =>
      have hplace := getElem?_placeMark labels offset x.1 label
      rw [endFrom, Instruction.size_mark hmark, Nat.add_zero] at hsmall
      specialize ih (placeMark labels offset x.1) offset before hsmall
      have hcount := countBefore_cons_mark (s := ⟨offset, x.2, x.1⟩) hmark (placed offset rest)
      have hboundary := boundary_cons_mark (s := ⟨offset, x.2, x.1⟩) hmark (placed offset rest)
        (endFrom offset rest)
      simp only [Instruction.size_mark hmark, Nat.add_zero, hcount, hboundary]
      cases hrest : positionFrom? label before (rest.map Prod.fst) with
      | some n => rw [hrest] at ih; exact ih
      | none =>
        -- no later mark of the label, so this one decides if it is one
        rw [hrest] at ih
        dsimp only at ih
        rw [Option.none_or, ih, hplace, hmark]
        by_cases h : l = label
        · rw [if_pos h, if_pos (congrArg some h)]
          exact ⟨offset, rfl, boundary_start offset rest, Nat.le_refl offset, by rw [countBefore_start]; rfl⟩
        · rw [if_neg h, if_neg fun hsome => h (Option.some.inj hsome)]

/-- The offset of a label, or 0 if the label is not placed. -/
def resolve (l : Layout) (label : Label) : Nat :=
  (l.labels[label.id]?).getD 0

theorem totals_resolve (l : Layout) : Totals l.resolve l.offsetOf := by
  intro label offset h
  rw [offsetOf] at h
  rw [resolve]
  split at h
  · rename_i found hfound
    cases h
    rw [hfound]
    rfl
  · cases h

/-- The label is placed. -/
abbrev Found (l : Layout) (label : Label) : Prop :=
  l.offsetOf label = .ok (l.resolve label)

theorem Boundary.le_endFrom {t : Nat} (h : Boundary (placed offset xs) (endFrom offset xs) t) :
    t ≤ endFrom offset xs := by
  rcases h with ⟨s, hs, rfl⟩ | rfl
  · have := (bounds_of_mem_placed (mem_realSteps.mp hs).1).2
    omega
  · exact Nat.le_refl _

variable {l : Layout}

/-- **A label that is found** is at a boundary, with as many instructions in front of it there as in the list. -/
theorem Settled.boundary_of_offsetOf (h : Settled is l xs) {label : Label} {t : Nat} (ht : l.offsetOf label = .ok t) :
    Boundary l.steps l.length t ∧ t ≤ l.length ∧ positionFrom? label 0 is = some (countBefore l.steps t) := by
  have hfound : l.labels[label.id]? = some t := by
    rw [offsetOf] at ht
    split at ht
    · rename_i found hfound
      cases ht
      exact hfound
    · cases ht
  have hposition := positionFrom?_placed ∅ 0 0 xs label h.small
  rw [h.instructions] at hposition
  rw [h.eq] at hfound
  rw [h.steps_eq, h.length_eq]
  dsimp only [laid] at hfound
  cases hp : positionFrom? label 0 is with
  | none =>
    rw [hp] at hposition
    dsimp only at hposition
    rw [hposition, Std.TreeMap.getElem?_emptyc] at hfound
    cases hfound
  | some n =>
    rw [hp] at hposition
    obtain ⟨t', ht', hboundary, -, rfl⟩ := hposition
    rw [hfound] at ht'
    cases ht'
    exact ⟨hboundary, hboundary.le_endFrom, by rw [Nat.zero_add]⟩

theorem Settled.resolve_le (h : Settled is l xs) {label : Label} (hfound : l.Found label) :
    l.resolve label ≤ l.length :=
  (h.boundary_of_offsetOf hfound).2.1

/-- Labels are ordered by their offsets as they are by their positions. -/
theorem Settled.offset_lt_iff (h : Settled is l xs) {a b : Label} {s t : Nat} (ha : l.offsetOf a = .ok s)
    (hb : l.offsetOf b = .ok t) : s < t ↔ countBefore l.steps s < countBefore l.steps t := by
  obtain ⟨has, hsle, -⟩ := h.boundary_of_offsetOf ha
  obtain ⟨hbt, htle, -⟩ := h.boundary_of_offsetOf hb
  constructor
  · exact countBefore_lt has htle
  · intro hlt
    refine Nat.lt_of_not_le fun hle => ?_
    rcases Nat.lt_or_eq_of_le hle with hts | rfl
    · have := countBefore_lt hbt hsle hts
      omega
    · omega

end Layout

end ClassWeaver
