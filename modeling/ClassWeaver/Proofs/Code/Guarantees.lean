import ClassWeaver.Proofs.Bytes.Guarantees
import ClassWeaver.Proofs.Code.FrameTable
import ClassWeaver.Proofs.Code.Operands

/-!
# What readers of code guarantee

A reader that accepts a byte run has checked something of it. What it has checked is stated of its results, whatever
the bytes were, and goes through a sequence of steps.

## Contents

* `ensures_kind` — the frames that are read have forms in which they can be written.
* `Operands.Ensures` — what holds of every operand, and how that goes through steps.
* `ensures_operands`, `decodeInstruction_eq_ok` — the instructions have such forms too.
* `decodeSteps_eq_ok` — instructions lie in the code, one behind the other.
-/

namespace ClassWeaver

open Bytes

/-! ## Frames -/

open Decoder (ensures_true ensures_counted ensures_repeated ensures_stop)

/-- The tags of frames that drop locals leave one to three of them to drop. -/
theorem shaped_chop {tag : Nat} (hlow : 247 < tag) (hhigh : tag ≤ 250) :
    (FrameKind.chop (UInt8.ofNat (251 - tag)) : FrameKind Nat).Shaped := by
  refine ⟨UInt8.le_iff_toNat_le.mpr ?_, UInt8.le_iff_toNat_le.mpr ?_⟩
  all_goals
    rw [UInt8.toNat_ofNat']
    have h1 : (1 : UInt8).toNat = 1 := rfl
    have h3 : (3 : UInt8).toNat = 3 := rfl
    omega

/-- **A frame that was read can be written.** -/
theorem ensures_kind : Decoder.Ensures FrameKind.decode fun row => row.2.Shaped := by
  refine (ensures_true Decoder.u1).bind fun tag _ => ?_
  dsimp only
  refine .ite (fun _ => .pure trivial) fun _ => ?_
  refine .ite (fun _ => (ensures_true _).bind_pure fun _ _ => trivial) fun _ => ?_
  refine .ite (fun _ => ensures_stop) fun hunused => ?_
  refine (ensures_true Decoder.u2).bind fun delta _ => ?_
  refine .ite (fun _ => (ensures_true _).bind_pure fun _ _ => trivial) fun hitem => ?_
  refine .ite (fun hchop => .pure (shaped_chop (by omega) hchop)) fun hrest => ?_
  refine .ite (fun _ => .pure trivial) fun hsame => ?_
  refine .ite (fun happend => (ensures_repeated (ensures_true _) _).bind_pure fun locals hlocals => ?_) fun _ => ?_
  · show 1 ≤ locals.length ∧ locals.length ≤ 3
    omega
  · refine (ensures_counted (ensures_true _)).bind fun locals hlocals => ?_
    refine (ensures_counted (ensures_true _)).bind_pure fun stack hstack => ?_
    exact ⟨Nat.lt_succ_of_le hlocals.1, Nat.lt_succ_of_le hstack.1⟩

/-! ## Operands -/

namespace Operands

variable {α β : Type} {holds : α → Prop} {holds' : β → Prop} {length start : Nat}

/-- Every value that is read has the property, and reading does not go back. -/
def Ensures (d : Operands α) (holds : α → Prop) : Prop :=
  ∀ c x c', d c = .ok (x, c') → c.offset ≤ c'.offset ∧ holds x

theorem bind_eq_ok {d : Operands α} {f : α → Operands β} {c c' : Cursor} {y : β} :
    (d >>= f) c = .ok (y, c') ↔ ∃ x middle, d c = .ok (x, middle) ∧ f x middle = .ok (y, c') := by
  have hbind : (d >>= f) c = d c >>= fun p => f p.1 p.2 := rfl
  rw [hbind]
  cases d c with
  | error e => exact iff_of_false nofun fun ⟨_, _, h, _⟩ => nomatch h
  | ok p =>
    constructor
    · exact fun h => ⟨p.1, p.2, rfl, h⟩
    · rintro ⟨x, middle, h, hf⟩
      cases h
      exact hf

theorem Ensures.pure {x : α} (h : holds x) : Ensures (pure x) holds := by
  intro c y c' hy
  cases hy
  exact ⟨Nat.le_refl _, h⟩

theorem Ensures.bind {d : Operands α} {f : α → Operands β} (hd : Ensures d holds)
    (hf : ∀ x, holds x → Ensures (f x) holds') : Ensures (d >>= f) holds' := by
  intro c y c' hy
  obtain ⟨x, middle, hx, hy⟩ := bind_eq_ok.mp hy
  obtain ⟨hle, hholds⟩ := hd c x middle hx
  obtain ⟨hle', hholds'⟩ := hf x hholds middle y c' hy
  exact ⟨Nat.le_trans hle hle', hholds'⟩

/-- The last step only assembles the value. -/
theorem Ensures.bind_pure {d : Operands α} {g : α → β} (hd : Ensures d holds) (hg : ∀ x, holds x → holds' (g x)) :
    Ensures (d >>= fun x => Pure.pure (g x)) holds' :=
  hd.bind fun x hx => .pure (hg x hx)

theorem Ensures.ite {c : Prop} [Decidable c] {d e : Operands α} (hd : c → Ensures d holds) (he : ¬c → Ensures e holds) :
    Ensures (if c then d else e) holds := by
  by_cases h : c
  · rw [if_pos h]
    exact hd h
  · rw [if_neg h]
    exact he h

theorem ensures_u1 : Ensures u1 fun _ => True := by
  intro c x c' h
  rw [u1] at h
  split at h
  · cases h
  · cases h
    exact ⟨Nat.le_succ _, trivial⟩

theorem ensures_u2 : Ensures u2 fun _ => True :=
  ensures_u1.bind fun _ _ => ensures_u1.bind_pure fun _ _ => trivial

theorem ensures_i2 : Ensures i2 fun _ => True :=
  ensures_u2.bind_pure fun _ _ => trivial

theorem ensures_i4 : Ensures i4 fun _ => True :=
  ensures_u1.bind fun _ _ => ensures_u1.bind fun _ _ => ensures_u1.bind fun _ _ =>
    ensures_u1.bind_pure fun _ _ => trivial

/-- A byte as a signed number fits in a byte. -/
theorem ensures_i1 : Ensures i1 fun n => fitsInByte n.toInt = true := by
  refine ensures_u1.bind_pure fun b _ => ?_
  have hlow := b.toInt8.toBitVec.le_toInt
  have hhigh := b.toInt8.toBitVec.toInt_lt
  rw [Int8.toInt_toInt16, fitsInByte, Bool.and_eq_true, decide_eq_true_eq, decide_eq_true_eq]
  have : b.toInt8.toInt = b.toInt8.toBitVec.toInt := rfl
  omega

theorem ensures_skip (n : Nat) : Ensures (skip n) fun _ => True := by
  intro c x c' h
  cases h
  exact ⟨Nat.le_add_right _ _, trivial⟩

theorem ensures_target (distance : Int) : Ensures (target length start distance) fun _ => True := by
  intro c x c' h
  rw [target] at h
  split at h
  · cases h
    exact ⟨Nat.le_refl _, trivial⟩
  · cases h

theorem ensures_target4 : Ensures (target4 length start) fun _ => True :=
  ensures_i4.bind fun _ _ => ensures_target _

/-- A table is read to its announced length. -/
theorem ensures_targets (n : Nat) (read : List Nat) :
    Ensures (targets length start read n) fun ts => ts.length = read.length + n := by
  induction n generalizing read with
  | zero =>
    intro c ts c' h
    cases h
    exact ⟨Nat.le_refl _, List.length_reverse⟩
  | succ n ih =>
    intro c ts c' h
    rw [targets] at h
    dsimp only at h
    split at h
    · cases h
    · rename_i t middle ht
      obtain ⟨hle, -⟩ := ensures_target4 c t middle ht
      obtain ⟨hle', hlen⟩ := ih (t :: read) middle ts c' h
      rw [List.length_cons] at hlen
      exact ⟨Nat.le_trans hle hle', by omega⟩

theorem ensures_pairs (n : Nat) (read : List (Int32 × Nat)) :
    Ensures (pairs length start read n) fun _ => True := by
  induction n generalizing read with
  | zero =>
    intro c ps c' h
    cases h
    exact ⟨Nat.le_refl _, trivial⟩
  | succ n ih =>
    intro c ps c' h
    rw [pairs] at h
    dsimp only at h
    split at h
    · cases h
    · rename_i p middle hp
      have hkeyed : Ensures (keyed length start) fun _ => True :=
        ensures_i4.bind fun _ _ => ensures_target4.bind_pure fun _ _ => trivial
      exact ⟨Nat.le_trans (hkeyed c p middle hp).1 (ih (p :: read) middle ps c' h).1, trivial⟩

theorem ensures_refuse (d : Defect) : Ensures (refuse d) holds :=
  fun _ _ _ h => nomatch h

end Operands

/-! ## Instructions -/

/-- A compact code stands for a load or a store. -/
theorem Opcode.isVariable_of_expandCompact? {op long : UInt8} {index : UInt16}
    (h : expandCompact? op = some (long, index)) : isVariable long = true := by
  have := forall_code (p := fun op => (expandCompact? op).all fun r => isVariable r.1) (by decide +kernel) op
  simpa [h] using this

/-- No mark, and of a form that can be written. -/
def Instruction.Proper {π : Type} (i : Instruction π) : Prop :=
  i.mark? = none ∧ i.Shaped

open Operands

theorem ensures_tableSwitch (length start : Nat) :
    Operands.Ensures (decodeTableSwitch length start) Instruction.Proper := by
  refine (ensures_skip _).bind fun _ _ => ensures_target4.bind fun otherwise _ => ?_
  refine ensures_i4.bind fun low _ => ensures_i4.bind fun high _ => ?_
  refine .ite (fun _ => ensures_refuse _) fun hrange => ?_
  have hle : low ≤ high := Int32.not_lt.mp hrange
  have hint : low.toInt ≤ high.toInt := Int32.le_iff_toInt_le.mp hle
  refine (ensures_targets _ []).bind_pure fun ts hts => ⟨rfl, hle, ?_⟩
  rw [hts, List.length_nil]
  omega

theorem ensures_lookupSwitch (length start : Nat) :
    Operands.Ensures (decodeLookupSwitch length start) Instruction.Proper := by
  refine (ensures_skip _).bind fun _ _ => ensures_target4.bind fun otherwise _ => ensures_i4.bind fun count _ => ?_
  exact .ite (fun _ => ensures_refuse _) fun _ => (ensures_pairs _ []).bind_pure fun _ _ => ⟨rfl, trivial⟩

theorem ensures_wide (start : Nat) : Operands.Ensures (decodeWide start) Instruction.Proper := by
  refine ensures_u1.bind fun op _ => ensures_u2.bind fun index _ => ?_
  refine .ite (fun _ => ensures_i2.bind_pure fun _ _ => ⟨rfl, trivial⟩) fun _ => ?_
  exact .ite (fun hop => .pure ⟨rfl, hop⟩) fun _ => ensures_refuse _

/-- **What is read is an instruction**, and can be written. -/
theorem ensures_operands (length start : Nat) (op : UInt8) :
    Operands.Ensures (decodeOperands length start op) Instruction.Proper := by
  rw [decodeOperands]
  refine .ite (fun hop => .pure ⟨rfl, hop⟩) fun _ => ?_
  cases hcompact : Opcode.expandCompact? op with
  | some expanded => exact .pure ⟨rfl, Opcode.isVariable_of_expandCompact? hcompact⟩
  | none =>
    refine .ite (fun hop => ensures_u1.bind_pure fun _ _ => ⟨rfl, hop⟩) fun _ => ?_
    refine .ite (fun hop => ensures_i2.bind fun _ _ => (ensures_target _).bind_pure fun _ _ => ⟨rfl, hop⟩) fun _ => ?_
    refine .ite (fun hop => ensures_i1.bind_pure fun _ hfits => ⟨rfl, .inl ⟨hop, hfits⟩⟩) fun _ => ?_
    refine .ite (fun hop => ensures_i2.bind_pure fun _ _ => ⟨rfl, .inr hop⟩) fun _ => ?_
    refine .ite (fun _ => ensures_u1.bind_pure fun _ _ => ⟨rfl, trivial⟩) fun _ => ?_
    refine .ite (fun _ => ensures_u2.bind_pure fun _ _ => ⟨rfl, trivial⟩) fun _ => ?_
    refine .ite (fun _ => ensures_u2.bind_pure fun _ _ => ⟨rfl, trivial⟩) fun _ => ?_
    refine .ite (fun _ => ensures_u1.bind fun _ _ => ensures_i1.bind_pure fun _ _ => ⟨rfl, trivial⟩) fun _ => ?_
    refine .ite (fun _ => ensures_target4.bind_pure fun _ _ => ⟨rfl, rfl⟩) fun _ => ?_
    refine .ite (fun _ => ensures_target4.bind_pure fun _ _ => ⟨rfl, rfl⟩) fun _ => ?_
    refine .ite (fun _ => ensures_tableSwitch length start) fun _ => ?_
    refine .ite (fun _ => ensures_lookupSwitch length start) fun _ => ?_
    refine .ite (fun hop => ensures_u2.bind_pure fun _ _ => ⟨rfl, hop⟩) fun _ => ?_
    refine .ite (fun hop => ensures_u2.bind_pure fun _ _ => ⟨rfl, hop⟩) fun _ => ?_
    refine .ite (fun _ => ensures_u2.bind fun _ _ => ensures_u1.bind fun _ _ => (ensures_skip 1).bind_pure
      fun _ _ => ⟨rfl, trivial⟩) fun _ => ?_
    refine .ite (fun _ => ensures_u2.bind fun _ _ => (ensures_skip 2).bind_pure fun _ _ => ⟨rfl, trivial⟩) fun _ => ?_
    refine .ite (fun hop => ensures_u2.bind_pure fun _ _ => ⟨rfl, hop⟩) fun _ => ?_
    refine .ite (fun _ => ensures_u1.bind_pure fun _ _ => ⟨rfl, trivial⟩) fun _ => ?_
    refine .ite (fun _ => ensures_u2.bind fun _ _ => ensures_u1.bind_pure fun _ _ => ⟨rfl, trivial⟩) fun _ => ?_
    exact .ite (fun _ => ensures_wide start) fun _ => ensures_refuse _

/-- An instruction takes a byte at least and ends in the code. -/
theorem decodeInstruction_eq_ok {length : Nat} {c next : Cursor} {i : Instruction Nat}
    (h : decodeInstruction length c = .ok (i, next)) : c.offset < next.offset ∧ next.offset ≤ length ∧ i.Proper := by
  rw [decodeInstruction] at h
  split at h
  · cases h
  · rename_i op operands hop
    split at h
    · cases h
    · rename_i j after hoperands
      split at h
      · cases h
      · rename_i hstop
        cases h
        have hstart : operands.offset = c.offset + 1 := by
          rw [u1] at hop
          split at hop <;> cases hop
          rfl
        obtain ⟨hle, hproper⟩ := ensures_operands length c.offset op operands i next hoperands
        exact ⟨by omega, Nat.le_of_not_lt hstop, hproper⟩

theorem decodeStepsFrom_eq_ok {length fuel : Nat} {c : Cursor} {read steps : List (Nat × Instruction Nat)}
    (h : decodeStepsFrom length read fuel c = .ok steps) :
    ∃ added, steps = read.reverse ++ added ∧ (∀ s ∈ added, s.2.Proper ∧ c.offset ≤ s.1 ∧ s.1 < length) ∧
      added.Pairwise fun s t => s.1 < t.1 := by
  induction fuel generalizing c read with
  | zero =>
    cases h
    exact ⟨[], (List.append_nil _).symm, nofun, .nil⟩
  | succ fuel ih =>
    rw [decodeStepsFrom] at h
    split at h
    · cases h
      exact ⟨[], (List.append_nil _).symm, nofun, .nil⟩
    · split at h
      · cases h
      · rename_i i next hi
        obtain ⟨hlt, hstop, hproper⟩ := decodeInstruction_eq_ok hi
        obtain ⟨added, rfl, hadded, hpairwise⟩ := ih h
        -- what comes later starts where this instruction ends, or behind that
        refine ⟨(c.offset, i) :: added, by rw [List.reverse_cons, List.append_assoc]; rfl, ?_, .cons ?_ hpairwise⟩
        · rw [List.forall_mem_cons]
          refine ⟨⟨hproper, Nat.le_refl _, Nat.lt_of_lt_of_le hlt hstop⟩, fun s hs => ?_⟩
          obtain ⟨hp, hle, hin⟩ := hadded s hs
          exact ⟨hp, by omega, hin⟩
        · intro s hs
          exact Nat.lt_of_lt_of_le hlt (hadded s hs).2.1

/-- **The instructions of a code array** can be written, and lie in the array in increasing order. -/
theorem decodeSteps_eq_ok {code : List UInt8} {steps : List (Nat × Instruction Nat)} (h : decodeSteps code = .ok steps) :
    (∀ s ∈ steps, s.2.Proper) ∧ (steps.map Prod.fst ++ [code.length]).Pairwise (· < ·) := by
  obtain ⟨added, rfl, hadded, hpairwise⟩ := decodeStepsFrom_eq_ok h
  refine ⟨fun s hs => (hadded s hs).1, ?_⟩
  rw [List.pairwise_append, List.pairwise_map]
  refine ⟨hpairwise, List.pairwise_singleton _ _, ?_⟩
  intro o ho stop hstop
  obtain ⟨s, hs, rfl⟩ := List.mem_map.mp ho
  rw [List.mem_singleton.mp hstop]
  exact (hadded s hs).2.2

end ClassWeaver
