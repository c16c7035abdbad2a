import ClassWeaver.Proofs.Code.Guarantees
import Mathlib.Data.List.Forall2

/-!
# The tiling of a code array

A code array is read from one end to the other, and each instruction is told by bytes of its own: they begin where
those of the instruction before it end, and the last of them is the last of the array. What these bytes may be is
written down here as a relation, form by form, without regard to how they are read. A reader may skip bytes that are
not there, which shows in an offset beyond the end only, so what is taken from the array is stated for readers that
have stayed in it.

## Contents

* `Instruction.Form` — the bytes that tell an instruction at an offset.
* `Operands.Takes` — what a reader takes from the bytes at the cursor, and how that goes through steps.
* `takes_operands` — the operands of an instruction are those of one of its forms.
* `Tiles`, `tiles_decodeSteps` — the instructions of a code array take all of it, one behind the other.
-/

namespace ClassWeaver

open Bytes

/-! ## Forms -/

/-- Four bytes with the distance from an offset to a target. -/
def Distance (start target : Nat) (bytes : List UInt8) : Prop :=
  ∃ d : Int32, bytes = i32 d ∧ (target : Int) = start + d.toInt

/-- A key in four bytes, and its target. -/
def KeyedDistance (start : Nat) (pair : Int32 × Nat) (bytes : List UInt8) : Prop :=
  ∃ distance, bytes = i32 pair.1 ++ distance ∧ Distance start pair.2 distance

/-- The bytes tell the instruction at the offset `start`. Loads, stores, increments, constants and jumps have more forms
than one; what pads a switch or fills a call up is not looked at. -/
inductive Instruction.Form (start : Nat) : Instruction Nat → List UInt8 → Prop
  | simple {op : UInt8} (hop : Opcode.isSimple op = true) : Form start (.simple op) [op]
  | compact {op long : UInt8} {index : UInt16} (hop : Opcode.expandCompact? op = some (long, index)) :
    Form start (.localVar long index) [op]
  | localVar {op : UInt8} (hop : Opcode.isVariable op = true) (index : UInt8) :
    Form start (.localVar op index.toUInt16) [op, index]
  | wideLocalVar {op : UInt8} (hop : Opcode.isVariable op = true) (index : UInt16) :
    Form start (.localVar op index) (Opcode.wide :: op :: u16 index)
  | bipush (value : UInt8) : Form start (.push Opcode.bipush value.toInt8.toInt16) [Opcode.bipush, value]
  | sipush (value : Int16) : Form start (.push Opcode.sipush value) (Opcode.sipush :: i16 value)
  | ldc (index : UInt8) : Form start (.constant index.toUInt16 false) [Opcode.ldc, index]
  | ldcW (index : UInt16) : Form start (.constant index false) (Opcode.ldcW :: u16 index)
  | ldc2W (index : UInt16) : Form start (.constant index true) (Opcode.ldc2W :: u16 index)
  | iinc (index delta : UInt8) :
    Form start (.increment index.toUInt16 delta.toInt8.toInt16) [Opcode.iinc, index, delta]
  | wideIinc (index : UInt16) (delta : Int16) :
    Form start (.increment index delta) (Opcode.wide :: Opcode.iinc :: (u16 index ++ i16 delta))
  | jump {op : UInt8} {target : Nat} (hop : Opcode.isJump op = true) (d : Int16)
    (htarget : (target : Int) = start + d.toInt) : Form start (.jump op target) (op :: i16 d)
  | gotoW {target : Nat} {bytes : List UInt8} (htarget : Distance start target bytes) :
    Form start (.jump Opcode.goto target) (Opcode.gotoW :: bytes)
  | jsrW {target : Nat} {bytes : List UInt8} (htarget : Distance start target bytes) :
    Form start (.jump Opcode.jsr target) (Opcode.jsrW :: bytes)
  | tableSwitch {otherwise : Nat} {targets : List Nat} {padding bytes : List UInt8} {chunks : List (List UInt8)}
    {low high : Int32} (hpadding : padding.length = switchPadding start) (hotherwise : Distance start otherwise bytes)
    (hrange : low ≤ high) (hcount : (targets.length : Int) = high.toInt - low.toInt + 1)
    (htargets : List.Forall₂ (Distance start) targets chunks) :
    Form start (.tableSwitch otherwise low high targets)
      (Opcode.tableSwitch :: (padding ++ (bytes ++ (i32 low ++ (i32 high ++ chunks.flatten)))))
  | lookupSwitch {otherwise : Nat} {pairs : List (Int32 × Nat)} {padding bytes : List UInt8}
    {chunks : List (List UInt8)} {count : Int32} (hpadding : padding.length = switchPadding start)
    (hotherwise : Distance start otherwise bytes) (hcount : (pairs.length : Int) = count.toInt)
    (hpairs : List.Forall₂ (KeyedDistance start) pairs chunks) :
    Form start (.lookupSwitch otherwise pairs)
      (Opcode.lookupSwitch :: (padding ++ (bytes ++ (i32 count ++ chunks.flatten))))
  | field {op : UInt8} (hop : Opcode.isField op = true) (index : UInt16) : Form start (.field op index) (op :: u16 index)
  | method {op : UInt8} (hop : Opcode.isMethod op = true) (index : UInt16) :
    Form start (.method op index) (op :: u16 index)
  | type {op : UInt8} (hop : Opcode.isType op = true) (index : UInt16) : Form start (.type op index) (op :: u16 index)
  | invokeInterface (index : UInt16) (count : UInt8) {filler : List UInt8} (hfiller : filler.length = 1) :
    Form start (.invokeInterface index count) (Opcode.invokeInterface :: (u16 index ++ ([count] ++ filler)))
  | invokeDynamic (index : UInt16) {filler : List UInt8} (hfiller : filler.length = 2) :
    Form start (.invokeDynamic index) (Opcode.invokeDynamic :: (u16 index ++ filler))
  | newArray (elements : UInt8) : Form start (.newArray elements) [Opcode.newArray, elements]
  | multiNewArray (index : UInt16) (dimensions : UInt8) :
    Form start (.multiNewArray index dimensions) (Opcode.multiNewArray :: (u16 index ++ [dimensions]))

/-! ## What readers take -/

namespace Operands

variable {α β : Type} {spelling : α → List UInt8 → Prop} {spelling' : β → List UInt8 → Prop} {length start : Nat}

/-- A reader that ends in front of the last byte or behind it has gone over bytes that are related to its value, and the
cursor has moved on by them. No reader goes back. -/
def Takes (d : Operands α) (spelling : α → List UInt8 → Prop) : Prop :=
  ∀ c x c', d c = .ok (x, c') → c.offset ≤ c'.offset ∧
    (c'.offset ≤ c.offset + c.rest.length →
      ∃ bytes, c.rest = bytes ++ c'.rest ∧ c'.offset = c.offset + bytes.length ∧ spelling x bytes)

theorem Takes.pure {x : α} (h : spelling x []) : Takes (pure x) spelling := by
  intro c y c' hy
  cases hy
  exact ⟨Nat.le_refl _, fun _ => ⟨[], rfl, rfl, h⟩⟩

/-- What comes second is related to what is still missing behind the bytes of what came first. -/
theorem Takes.bind {d : Operands α} {f : α → Operands β} (hd : Takes d spelling)
    (hf : ∀ x, Takes (f x) fun y rest => ∀ bytes, spelling x bytes → spelling' y (bytes ++ rest)) :
    Takes (d >>= f) spelling' := by
  intro c y c' hy
  obtain ⟨x, middle, hx, hy⟩ := bind_eq_ok.mp hy
  obtain ⟨hle, hfirst⟩ := hd c x middle hx
  obtain ⟨hle', hsecond⟩ := hf x middle y c' hy
  refine ⟨Nat.le_trans hle hle', fun hin => ?_⟩
  -- the reader has not gone back, so it had stayed in front of the end in between
  obtain ⟨bytes, hbytes, hoffset, hspelling⟩ := hfirst (Nat.le_trans hle' hin)
  rw [hbytes, List.length_append] at hin
  obtain ⟨rest, hrest, hoffset', hspelling'⟩ := hsecond (by omega)
  refine ⟨bytes ++ rest, ?_, ?_, hspelling' bytes hspelling⟩
  · rw [hbytes, hrest, List.append_assoc]
  · rw [hoffset', hoffset, List.length_append, Nat.add_assoc]

/-- The last step only assembles the value. -/
theorem Takes.bind_pure {d : Operands α} {g : α → β} (hd : Takes d spelling)
    (hg : ∀ x bytes, spelling x bytes → spelling' (g x) bytes) : Takes (d >>= fun x => Pure.pure (g x)) spelling' :=
  hd.bind fun x => .pure fun bytes h => by
    rw [List.append_nil]
    exact hg x bytes h

theorem Takes.ite {c : Prop} [Decidable c] {d e : Operands α} (hd : c → Takes d spelling) (he : ¬c → Takes e spelling) :
    Takes (if c then d else e) spelling := by
  by_cases h : c
  · rw [if_pos h]
    exact hd h
  · rw [if_neg h]
    exact he h

theorem Takes.imp {d : Operands α} {spelling' : α → List UInt8 → Prop} (hd : Takes d spelling)
    (h : ∀ x bytes, spelling x bytes → spelling' x bytes) : Takes d spelling' := by
  intro c x c' hx
  obtain ⟨hle, htakes⟩ := hd c x c' hx
  refine ⟨hle, fun hin => ?_⟩
  obtain ⟨bytes, hbytes, hoffset, hspelling⟩ := htakes hin
  exact ⟨bytes, hbytes, hoffset, h x bytes hspelling⟩

theorem takes_refuse (d : Defect) : Takes (refuse d) spelling :=
  fun _ _ _ h => nomatch h

theorem takes_u1 : Takes u1 fun b bytes => bytes = [b] := by
  rintro ⟨offset, rest⟩ x c' h
  cases rest with
  | nil => cases h
  | cons b rest =>
    cases h
    exact ⟨Nat.le_succ _, fun _ => ⟨[_], rfl, rfl, rfl⟩⟩

theorem takes_u2 : Takes u2 fun n bytes => bytes = u16 n := by
  refine takes_u1.bind fun a => takes_u1.bind_pure ?_
  rintro b _ rfl _ rfl
  exact (u16_word a b).symm

theorem takes_i1 : Takes i1 fun n bytes => ∃ b : UInt8, bytes = [b] ∧ n = b.toInt8.toInt16 := by
  refine takes_u1.bind_pure ?_
  rintro b _ rfl
  exact ⟨b, rfl, rfl⟩

theorem takes_i2 : Takes i2 fun n bytes => bytes = i16 n := by
  refine takes_u2.bind_pure ?_
  rintro n _ rfl
  rw [i16, UInt16.toUInt16_toInt16]

theorem takes_i4 : Takes i4 fun n bytes => bytes = i32 n := by
  refine takes_u1.bind fun a => takes_u1.bind fun b => takes_u1.bind fun c => takes_u1.bind_pure ?_
  rintro d _ rfl _ rfl _ rfl _ rfl
  rw [i32, UInt32.toUInt32_toInt32, u32_doubleWord]
  rfl

/-- Skipping takes as many bytes as were meant, unless it leaves the code. -/
theorem takes_skip (n : Nat) : Takes (skip n) fun _ bytes => bytes.length = n := by
  intro c x c' h
  cases h
  refine ⟨Nat.le_add_right _ _, fun hin => ?_⟩
  have hlength : (c.rest.take n).length = n := List.length_take_of_le (Nat.le_of_add_le_add_left hin)
  exact ⟨c.rest.take n, (List.take_append_drop n c.rest).symm, by rw [hlength], hlength⟩

theorem takes_target (distance : Int) :
    Takes (target length start distance) fun t bytes => bytes = [] ∧ (t : Int) = start + distance := by
  intro c x c' h
  rw [target, checkOffset] at h
  split at h
  · rename_i o ho
    split at ho
    · rename_i hinside
      cases ho
      cases h
      exact ⟨Nat.le_refl _, fun _ => ⟨[], rfl, rfl, rfl, Int.toNat_of_nonneg hinside.1⟩⟩
    · cases ho
  · cases h

theorem takes_target4 : Takes (target4 length start) (Distance start) := by
  refine takes_i4.bind fun d => (takes_target d.toInt).imp ?_
  rintro t _ ⟨rfl, ht⟩ _ rfl
  exact ⟨d, List.append_nil _, ht⟩

theorem takes_keyed : Takes (keyed length start) (KeyedDistance start) := by
  refine takes_i4.bind fun key => takes_target4.bind_pure ?_
  rintro t distance ht _ rfl
  exact ⟨distance, rfl, ht⟩

/-- Reading one item after the other takes the bytes of all of them. -/
theorem takes_many {item : Operands α} {many : List α → Nat → Operands (List α)} (hitem : Takes item spelling)
    (hzero : ∀ read, many read 0 = Pure.pure read.reverse)
    (hsucc : ∀ read n, many read (n + 1) = item >>= fun x => many (x :: read) n) (read : List α) (n : Nat) :
    Takes (many read n) fun xs bytes => ∃ added chunks, xs = read.reverse ++ added ∧ added.length = n ∧
      bytes = chunks.flatten ∧ List.Forall₂ spelling added chunks := by
  induction n generalizing read with
  | zero =>
    rw [hzero]
    exact .pure ⟨[], [], (List.append_nil _).symm, rfl, rfl, .nil⟩
  | succ n ih =>
    rw [hsucc]
    refine hitem.bind fun x => (ih (x :: read)).imp ?_
    rintro _ _ ⟨added, chunks, rfl, rfl, rfl, hspellings⟩ bytes hspelling
    refine ⟨x :: added, bytes :: chunks, ?_, rfl, rfl, .cons hspelling hspellings⟩
    rw [List.reverse_cons, List.append_assoc]
    rfl

theorem targets_succ (read : List Nat) (n : Nat) :
    targets length start read (n + 1) = target4 length start >>= fun t => targets length start (t :: read) n := by
  funext c
  show _ = target4 length start c >>= fun p => targets length start (p.1 :: read) n p.2
  rw [targets]
  dsimp only
  cases target4 length start c <;> rfl

theorem pairs_succ (read : List (Int32 × Nat)) (n : Nat) :
    pairs length start read (n + 1) = keyed length start >>= fun p => pairs length start (p :: read) n := by
  funext c
  show _ = keyed length start c >>= fun p => pairs length start (p.1 :: read) n p.2
  rw [pairs]
  dsimp only
  cases keyed length start c <;> rfl

theorem takes_targets (n : Nat) : Takes (targets length start [] n) fun ts bytes => ∃ chunks, ts.length = n ∧
    bytes = chunks.flatten ∧ List.Forall₂ (Distance start) ts chunks := by
  refine (takes_many takes_target4 (fun _ => rfl) targets_succ [] n).imp ?_
  rintro _ _ ⟨added, chunks, rfl, hcount, hbytes, hspellings⟩
  exact ⟨chunks, hcount, hbytes, hspellings⟩

theorem takes_pairs (n : Nat) : Takes (pairs length start [] n) fun ps bytes => ∃ chunks, ps.length = n ∧
    bytes = chunks.flatten ∧ List.Forall₂ (KeyedDistance start) ps chunks := by
  refine (takes_many takes_keyed (fun _ => rfl) pairs_succ [] n).imp ?_
  rintro _ _ ⟨added, chunks, rfl, hcount, hbytes, hspellings⟩
  exact ⟨chunks, hcount, hbytes, hspellings⟩

end Operands

/-! ## Instructions -/

open Instruction (Form)
open Operands

theorem takes_tableSwitch (length start : Nat) :
    Takes (decodeTableSwitch length start) fun i bytes => Form start i (Opcode.tableSwitch :: bytes) := by
  refine (takes_skip _).bind fun _ => takes_target4.bind fun otherwise => ?_
  refine takes_i4.bind fun low => takes_i4.bind fun high => ?_
  refine .ite (fun _ => takes_refuse _) fun hrange => ?_
  have hle : low ≤ high := Int32.not_lt.mp hrange
  have hint : low.toInt ≤ high.toInt := Int32.le_iff_toInt_le.mp hle
  refine (takes_targets _).bind_pure ?_
  rintro ts _ ⟨chunks, hcount, rfl, htargets⟩ _ rfl _ rfl bytes hotherwise padding hpadding
  exact .tableSwitch hpadding hotherwise hle (by omega) htargets

theorem takes_lookupSwitch (length start : Nat) :
    Takes (decodeLookupSwitch length start) fun i bytes => Form start i (Opcode.lookupSwitch :: bytes) := by
  refine (takes_skip _).bind fun _ => takes_target4.bind fun otherwise => takes_i4.bind fun count => ?_
  refine .ite (fun _ => takes_refuse _) fun hcount => ?_
  have hle : 0 ≤ count := Int32.not_lt.mp hcount
  have hint : 0 ≤ count.toInt := Int32.le_iff_toInt_le.mp hle
  refine (takes_pairs _).bind_pure ?_
  rintro ps _ ⟨chunks, hlength, rfl, hpairs⟩ _ rfl bytes hotherwise padding hpadding
  exact .lookupSwitch hpadding hotherwise (by omega) hpairs

theorem takes_wide (start : Nat) :
    Takes (decodeWide start) fun i bytes => Form start i (Opcode.wide :: bytes) := by
  refine takes_u1.bind fun op => takes_u2.bind fun index => ?_
  refine .ite (fun hop => takes_i2.bind_pure ?_) fun _ => .ite (fun hop => .pure ?_) fun _ => takes_refuse _
  · rintro delta _ rfl _ rfl _ rfl
    exact hop ▸ .wideIinc index delta
  · rintro _ rfl _ rfl
    exact .wideLocalVar hop index

/-- **The operands of an instruction** are those of one of its forms. -/
theorem takes_operands (length start : Nat) (op : UInt8) :
    Takes (decodeOperands length start op) fun i bytes => Form start i (op :: bytes) := by
  rw [decodeOperands]
  -- one form after the other, in the order in which opcodes are told apart
  refine .ite (fun hop => .pure (.simple hop)) fun _ => ?_
  cases hcompact : Opcode.expandCompact? op with
  | some expanded => exact .pure (.compact hcompact)
  | none =>
    refine .ite (fun hop => takes_u1.bind_pure ?_) fun _ => ?_
    · rintro index _ rfl
      exact .localVar hop index
    refine .ite (fun hop => takes_i2.bind fun d => (takes_target _).bind_pure ?_) fun _ => ?_
    · rintro t _ ⟨rfl, ht⟩ _ rfl
      exact .jump hop d ht
    refine .ite (fun hop => takes_i1.bind_pure ?_) fun _ => ?_
    · rintro _ _ ⟨value, rfl, rfl⟩
      exact hop ▸ .bipush value
    refine .ite (fun hop => takes_i2.bind_pure ?_) fun _ => ?_
    · rintro value _ rfl
      exact hop ▸ .sipush value
    refine .ite (fun hop => takes_u1.bind_pure ?_) fun _ => ?_
    · rintro index _ rfl
      exact hop ▸ .ldc index
    refine .ite (fun hop => takes_u2.bind_pure ?_) fun _ => ?_
    · rintro index _ rfl
      exact hop ▸ .ldcW index
    refine .ite (fun hop => takes_u2.bind_pure ?_) fun _ => ?_
    · rintro index _ rfl
      exact hop ▸ .ldc2W index
    refine .ite (fun hop => takes_u1.bind fun index => takes_i1.bind_pure ?_) fun _ => ?_
    · rintro _ _ ⟨delta, rfl, rfl⟩ _ rfl
      exact hop ▸ .iinc index delta
    refine .ite (fun hop => takes_target4.bind_pure fun t bytes ht => hop ▸ .gotoW ht) fun _ => ?_
    refine .ite (fun hop => takes_target4.bind_pure fun t bytes ht => hop ▸ .jsrW ht) fun _ => ?_
    refine .ite (fun hop => hop ▸ takes_tableSwitch length start) fun _ => ?_
    refine .ite (fun hop => hop ▸ takes_lookupSwitch length start) fun _ => ?_
    refine .ite (fun hop => takes_u2.bind_pure ?_) fun _ => ?_
    · rintro index _ rfl
      exact .field hop index
    refine .ite (fun hop => takes_u2.bind_pure ?_) fun _ => ?_
    · rintro index _ rfl
      exact .method hop index
    refine .ite (fun hop => takes_u2.bind fun index => takes_u1.bind fun count => (takes_skip 1).bind_pure ?_)
      fun _ => ?_
    · rintro _ filler hfiller _ rfl _ rfl
      exact hop ▸ .invokeInterface index count hfiller
    refine .ite (fun hop => takes_u2.bind fun index => (takes_skip 2).bind_pure ?_) fun _ => ?_
    · rintro _ filler hfiller _ rfl
      exact hop ▸ .invokeDynamic index hfiller
    refine .ite (fun hop => takes_u2.bind_pure ?_) fun _ => ?_
    · rintro index _ rfl
      exact .type hop index
    refine .ite (fun hop => takes_u1.bind_pure ?_) fun _ => ?_
    · rintro elements _ rfl
      exact hop ▸ .newArray elements
    refine .ite (fun hop => takes_u2.bind fun index => takes_u1.bind_pure ?_) fun _ => ?_
    · rintro dimensions _ rfl _ rfl
      exact hop ▸ .multiNewArray index dimensions
    exact .ite (fun hop => hop ▸ takes_wide start) fun _ => takes_refuse _

/-- **An instruction in the code** takes the bytes from the cursor to where it leaves it. -/
theorem form_of_decodeInstruction {length : Nat} {c next : Cursor} {i : Instruction Nat}
    (hend : c.offset + c.rest.length = length) (h : decodeInstruction length c = .ok (i, next)) :
    ∃ bytes, c.rest = bytes ++ next.rest ∧ next.offset = c.offset + bytes.length ∧ Form c.offset i bytes := by
  obtain ⟨-, hstop, -⟩ := decodeInstruction_eq_ok h
  rw [decodeInstruction] at h
  cases hop : u1 c with
  | error e => rw [hop] at h; cases h
  | ok first =>
    obtain ⟨op, operands⟩ := first
    rw [hop] at h
    dsimp only at h
    cases hoperands : decodeOperands length c.offset op operands with
    | error e => rw [hoperands] at h; cases h
    | ok result =>
      obtain ⟨j, after⟩ := result
      rw [hoperands] at h
      dsimp only at h
      split at h
      · cases h
      · cases h
        -- the operands end inside the code, so the opcode in front of them does
        have hle := (takes_operands length c.offset op operands i next hoperands).1
        obtain ⟨_, hrest, hoffset, rfl⟩ := (takes_u1 c op operands hop).2 (by omega)
        rw [hrest, List.length_append] at hend
        obtain ⟨bytes, hrest', hoffset', hform⟩ :=
          (takes_operands length c.offset op operands i next hoperands).2 (by omega)
        refine ⟨op :: bytes, by rw [hrest, hrest']; rfl, ?_, hform⟩
        rw [hoffset', hoffset]
        simp only [List.length_cons, List.length_nil]
        omega

/-! ## Tilings -/

/-- Instructions with their offsets, which take all bytes from an offset to the end of a code array of the given length,
each behind the one before it. -/
inductive Tiles (length : Nat) : (offset : Nat) → List UInt8 → List (Nat × Instruction Nat) → Prop
  | nil : Tiles length length [] []
  | cons {offset : Nat} {i : Instruction Nat} {bytes code : List UInt8} {steps : List (Nat × Instruction Nat)}
    (hform : i.Form offset bytes) (hrest : Tiles length (offset + bytes.length) code steps) :
    Tiles length offset (bytes ++ code) ((offset, i) :: steps)

/-- Nothing is left at the end. -/
theorem tiles_nil {length : Nat} {c : Cursor} (hend : c.offset + c.rest.length = length) (hnil : c.rest = []) :
    Tiles length c.offset c.rest [] := by
  rw [hnil, List.length_nil, Nat.add_zero] at hend
  rw [hnil, hend]
  exact .nil

/-- Reading to the end tiles what is left. -/
theorem tiles_decodeStepsFrom {length fuel : Nat} {c : Cursor} {read steps : List (Nat × Instruction Nat)}
    (hend : c.offset + c.rest.length = length) (hfuel : c.rest.length ≤ fuel)
    (h : decodeStepsFrom length read fuel c = .ok steps) :
    ∃ added, steps = read.reverse ++ added ∧ Tiles length c.offset c.rest added := by
  -- what has been read and what is left make up the length in every round
  induction fuel generalizing c read with
  | zero =>
    cases h
    exact ⟨[], (List.append_nil _).symm, tiles_nil hend (List.length_eq_zero_iff.mp (Nat.le_zero.mp hfuel))⟩
  | succ fuel ih =>
    rw [decodeStepsFrom] at h
    split at h
    · rename_i hempty
      cases h
      exact ⟨[], (List.append_nil _).symm, tiles_nil hend (List.isEmpty_iff.mp hempty)⟩
    · split at h
      · cases h
      · rename_i i next hi
        obtain ⟨hlt, -, -⟩ := decodeInstruction_eq_ok hi
        obtain ⟨bytes, hrest, hoffset, hform⟩ := form_of_decodeInstruction hend hi
        rw [hrest, List.length_append] at hend hfuel
        obtain ⟨added, rfl, htiles⟩ := ih (by omega) (by omega) h
        refine ⟨(c.offset, i) :: added, by rw [List.reverse_cons, List.append_assoc]; rfl, ?_⟩
        rw [hrest]
        exact .cons hform (hoffset ▸ htiles)

/-- **The instructions of a code array tile it.** -/
theorem tiles_decodeSteps {code : List UInt8} {steps : List (Nat × Instruction Nat)} (h : decodeSteps code = .ok steps) :
    Tiles code.length 0 code steps := by
  have hstart : (Cursor.mk 0 code).offset + (Cursor.mk 0 code).rest.length = code.length := Nat.zero_add _
  obtain ⟨added, rfl, htiles⟩ := tiles_decodeStepsFrom hstart (Nat.le_refl _) h
  exact htiles

end ClassWeaver
