import ClassWeaver.Code.Payload
import ClassWeaver.Proofs.Bytes.Reading
import ClassWeaver.Proofs.Code.Positions

/-!
# Instructions read back

The bytes of an instruction, read at the offset for which they were written, give the instruction again, whichever
of its forms was written. The offset counts: it decides the padding of a switch, and branch targets are written as
distances from it.

## Contents

* `Operands.Reads` and one lemma for each reader of operands.
* `Instruction.Shaped` — what an instruction's data has to be like to be written without loss.
* `Instruction.Reaches` — what its targets have to be like in the form that is written.
* `Instruction.length_toBytes` — the size of an instruction is that of its bytes.
* `reads_instruction` — reading back.
-/

namespace ClassWeaver

open Bytes

/-! ## Reading operands -/

namespace Operands

variable {α β : Type}

/-- The reader takes exactly `bytes` at an offset, for the value `x`, whatever follows them. -/
def Reads (d : Operands α) (offset : Nat) (bytes : List UInt8) (x : α) : Prop :=
  ∀ rest, d ⟨offset, bytes ++ rest⟩ = .ok (x, ⟨offset + bytes.length, rest⟩)

theorem Reads.pure (x : α) (offset : Nat) : Reads (pure x) offset [] x :=
  fun _ => rfl

theorem Reads.bind {d : Operands α} {f : α → Operands β} {offset : Nat} {bytes bytes' : List UInt8} {x : α} {y : β}
    (hd : Reads d offset bytes x) (hf : Reads (f x) (offset + bytes.length) bytes' y) :
    Reads (d >>= f) offset (bytes ++ bytes') y := by
  intro rest
  show StateT.bind d f _ = _
  simp only [StateT.bind, List.append_assoc, hd (bytes' ++ rest)]
  rw [List.length_append, ← Nat.add_assoc]
  exact hf rest

/-- The last step only assembles the value. -/
theorem Reads.bind_last {d : Operands α} {f : α → Operands β} {offset : Nat} {bytes : List UInt8} {x : α} {y : β}
    (hd : Reads d offset bytes x) (hf : f x = Pure.pure y) : Reads (d >>= f) offset bytes y := by
  have := hd.bind (f := f) (hf ▸ Reads.pure y _)
  rwa [List.append_nil] at this

/-- As `bind_last`, where every value is assembled in the same way. -/
theorem Reads.bind_pure {d : Operands α} {offset : Nat} {bytes : List UInt8} {x : α} (g : α → β)
    (hd : Reads d offset bytes x) : Reads (d >>= fun x => Pure.pure (g x)) offset bytes (g x) :=
  hd.bind_last rfl

variable {offset length start target : Nat}

theorem reads_u1 (b : UInt8) (offset : Nat) : Reads u1 offset [b] b :=
  fun _ => rfl

theorem reads_u2 (n : UInt16) (offset : Nat) : Reads u2 offset (u16 n) n := by
  have h := word_div_mod n
  intro rest
  show Except.ok (word _ _, _) = _
  rw [h]
  rfl

theorem reads_i2 (n : Int16) (offset : Nat) : Reads i2 offset (i16 n) n := by
  have := (reads_u2 n.toUInt16 offset).bind_pure UInt16.toInt16
  rwa [Int16.toInt16_toUInt16] at this

theorem reads_i4 (n : Int32) (offset : Nat) : Reads i4 offset (i32 n) n := by
  intro rest
  have h := doubleWord_u32 n.toUInt32
  show Except.ok ((doubleWord _ _ _ _).toInt32, _) = _
  rw [h, Int32.toInt32_toUInt32]
  rfl

/-- The low byte of a small signed number holds all of it. -/
theorem toInt16_low {n : Int16} (h : fitsInByte n.toInt = true) : n.toUInt16.toUInt8.toInt8.toInt16 = n := by
  have hfits : -128 ≤ n.toBitVec.toInt ∧ n.toBitVec.toInt ≤ 127 := by
    simpa [fitsInByte] using h
  have hlt := n.toBitVec.isLt
  apply Int16.toInt_inj.mp
  rw [Int8.toInt_toInt16]
  show (n.toBitVec.setWidth 8).toInt = n.toBitVec.toInt
  rw [BitVec.toInt_setWidth, Int.bmod_def]
  rw [BitVec.toInt_eq_toNat_cond] at hfits ⊢
  split at hfits <;> split <;> omega

theorem reads_i1 {n : Int16} (h : fitsInByte n.toInt = true) (offset : Nat) :
    Reads i1 offset [n.toUInt16.toUInt8] n := by
  have := (reads_u1 n.toUInt16.toUInt8 offset).bind_pure fun b => b.toInt8.toInt16
  rwa [toInt16_low h] at this

theorem reads_skip (bytes : List UInt8) (offset : Nat) : Reads (skip bytes.length) offset bytes () := by
  intro rest
  simp [skip]

/-! ## Reading targets -/

theorem reads_target {distance : Int} (ht : target ≤ length) (hd : (start : Int) + distance = target)
    (offset : Nat) : Reads (Operands.target length start distance) offset [] target := by
  intro rest
  simp only [Operands.target, checkOffset, hd]
  rw [if_pos ⟨by omega, by omega⟩]
  rfl

theorem reads_target4 (hs : start ≤ length) (ht : target ≤ length) (hlen : length < 65536) (offset : Nat) :
    Reads (target4 length start) offset (distance4 start target) target := by
  have hdistance : (Int32.ofInt ((target : Int) - start)).toInt = target - start :=
    Int32.toInt_ofInt_of_le (by omega) (by omega)
  have := (reads_i4 (Int32.ofInt ((target : Int) - start)) offset).bind
    (f := fun d => Operands.target length start d.toInt) (reads_target ht (by rw [hdistance]; omega) _)
  rwa [List.append_nil] at this

theorem reads_target2 (ht : target ≤ length) (hfits : fitsInWord ((target : Int) - start) = true) (offset : Nat) :
    Reads (do let distance ← i2; Operands.target length start distance.toInt) offset (distance2 start target)
      target := by
  simp only [fitsInWord, Bool.and_eq_true, decide_eq_true_eq] at hfits
  have hdistance : (Int16.ofInt ((target : Int) - start)).toInt = target - start :=
    Int16.toInt_ofInt_of_le (by omega) (by omega)
  have := (reads_i2 (Int16.ofInt ((target : Int) - start)) offset).bind
    (f := fun d => Operands.target length start d.toInt) (reads_target ht (by rw [hdistance]; omega) _)
  rwa [List.append_nil] at this

/-- The targets of a table switch, behind those in `read`. -/
theorem reads_targets (hs : start ≤ length) (hlen : length < 65536) (ts : List Nat) (ht : ∀ t ∈ ts, t ≤ length)
    (read : List Nat) (offset : Nat) :
    Reads (targets length start read ts.length) offset (ts.flatMap (distance4 start)) (read.reverse ++ ts) := by
  induction ts generalizing read offset with
  | nil =>
    intro rest
    simp [targets]
  | cons t ts ih =>
    intro rest
    rw [List.forall_mem_cons] at ht
    rw [List.length_cons, targets, List.flatMap_cons, List.append_assoc]
    dsimp only
    rw [reads_target4 hs ht.1 hlen]
    dsimp only
    rw [ih ht.2]
    simp [Nat.add_assoc]

theorem reads_keyed (hs : start ≤ length) (hlen : length < 65536) (key : Int32) (ht : target ≤ length)
    (offset : Nat) : Reads (keyed length start) offset (i32 key ++ distance4 start target) (key, target) :=
  (reads_i4 key offset).bind ((reads_target4 hs ht hlen _).bind_pure (Prod.mk key))

/-- The keys and targets of a lookup switch, behind those in `read`. -/
theorem reads_pairs (hs : start ≤ length) (hlen : length < 65536) (ps : List (Int32 × Nat))
    (hp : ∀ p ∈ ps, p.2 ≤ length) (read : List (Int32 × Nat)) (offset : Nat) :
    Reads (pairs length start read ps.length) offset (ps.flatMap fun (key, target) => i32 key ++ distance4 start target)
      (read.reverse ++ ps) := by
  induction ps generalizing read offset with
  | nil =>
    intro rest
    simp [pairs]
  | cons p ps ih =>
    intro rest
    rw [List.forall_mem_cons] at hp
    obtain ⟨key, target⟩ := p
    rw [List.length_cons, pairs, List.flatMap_cons, List.append_assoc]
    dsimp only
    rw [reads_keyed hs hlen key hp.1]
    dsimp only
    rw [ih hp.2]
    simp [Nat.add_assoc]

end Operands

/-! ## Codes and their classes -/

namespace Opcode

/-- What holds of every number below 256 holds of every code. -/
theorem forall_code {p : UInt8 → Bool} (h : ∀ n : Fin 256, p (UInt8.ofNat n) = true) (op : UInt8) : p op = true := by
  have := h ⟨op.toNat, op.toNat_lt⟩
  rwa [UInt8.ofNat_toNat] at this

theorem isSimple_of_isVariable {op : UInt8} (h : isVariable op = true) :
    isSimple op = false ∧ expandCompact? op = none := by
  have := forall_code
    (p := fun op => !isVariable op || (!isSimple op && (expandCompact? op).isNone)) (by decide +kernel) op
  simpa [h] using this

theorem isSimple_of_isJump {op : UInt8} (h : isJump op = true) :
    isSimple op = false ∧ expandCompact? op = none ∧ isVariable op = false := by
  have := forall_code
    (p := fun op => !isJump op || (!isSimple op && ((expandCompact? op).isNone && !isVariable op)))
    (by decide +kernel) op
  simpa [h] using this

theorem eq_of_isField {op : UInt8} (h : isField op = true) : op = 0xB2 ∨ op = 0xB3 ∨ op = 0xB4 ∨ op = 0xB5 := by
  have := forall_code
    (p := fun op => !isField op || (op == 0xB2 || (op == 0xB3 || (op == 0xB4 || op == 0xB5)))) (by decide +kernel) op
  simpa [h] using this

theorem eq_of_isMethod {op : UInt8} (h : isMethod op = true) : op = 0xB6 ∨ op = 0xB7 ∨ op = 0xB8 := by
  have := forall_code (p := fun op => !isMethod op || (op == 0xB6 || (op == 0xB7 || op == 0xB8))) (by decide +kernel) op
  simpa [h] using this

theorem eq_of_isType {op : UInt8} (h : isType op = true) :
    op = new ∨ op = anewArray ∨ op = checkCast ∨ op = instanceOf := by
  simpa [isType, or_assoc] using h

/-- A compact code names the long form and the index that it was made of. -/
theorem expandCompact?_of_compact? {op compact : UInt8} {index : UInt16} (h : compact? op index = some compact) :
    isSimple compact = false ∧ expandCompact? compact = some (op, index) := by
  have every : ∀ n : Fin 256, ∀ k : Fin 4, ((compact? (UInt8.ofNat n) (UInt16.ofNat k)).all fun c =>
      !isSimple c && expandCompact? c == some (UInt8.ofNat n, UInt16.ofNat k)) = true := by
    decide +kernel
  have hindex : index.toNat < 4 := by
    by_cases hlt : 3 < index
    · rw [compact?, if_pos hlt] at h
      cases h
    · have := (not_congr UInt16.lt_iff_toNat_lt).mp hlt
      exact Nat.lt_succ_of_le (Nat.le_of_not_lt this)
  have := every ⟨op.toNat, op.toNat_lt⟩ ⟨index.toNat, hindex⟩
  simp only [UInt8.ofNat_toNat, UInt16.ofNat_toNat] at this
  simpa [h] using this

end Opcode

/-! ## Bytes and sizes -/

namespace Instruction

theorem length_flatMap_of_forall {α : Type} {row : α → List UInt8} {n : Nat} (h : ∀ a, (row a).length = n)
    (as : List α) : (as.flatMap row).length = n * as.length := by
  rw [List.length_flatMap, List.map_congr_left fun a _ => h a, List.map_const', List.sum_replicate_nat, Nat.mul_comm]

/-- **The size of an instruction is the number of its bytes**, at every offset and in either form. -/
theorem length_toBytes (i : Instruction Nat) (offset : Nat) (long : Bool) :
    (i.toBytes offset long).length = i.size offset long := by
  cases i with
  | push op value => simp only [toBytes, size]; split <;> rfl
  | constant index twoSlots =>
    cases twoSlots with
    | true => rfl
    | false => by_cases h : index < 256 <;> simp [toBytes, size, u16, h]
  | localVar op index =>
    simp only [toBytes, size]
    cases Opcode.compact? op index with
    | some compact => rfl
    | none => by_cases h : index < 256 <;> simp [u16, h]
  | increment index delta => simp only [toBytes, size]; split <;> rfl
  | jump op target => cases long <;> rfl
  | tableSwitch d low high ts =>
    have hdistance : ∀ t, (distance4 offset t).length = 4 := fun _ => rfl
    simp only [toBytes, size, List.length_cons, List.length_append, length_flatMap_of_forall hdistance, paddingBytes, List.length_replicate]
    simp only [distance4, i32, u32, List.length_cons, List.length_nil]
    omega
  | lookupSwitch d ps =>
    have hpair : ∀ p : Int32 × Nat, (i32 p.1 ++ distance4 offset p.2).length = 8 := fun _ => rfl
    simp only [toBytes, size, List.length_cons, List.length_append, length_flatMap_of_forall hpair, paddingBytes, List.length_replicate]
    simp only [distance4, i32, u32, List.length_cons, List.length_nil]
    omega
  | _ => rfl

theorem size_map {π ρ : Type} (g : π → ρ) (i : Instruction π) (offset : Nat) (long : Bool) :
    (i.map g).size offset long = i.size offset long := by
  cases i <;> simp [map, size]

/-! ## Reading an instruction back -/

/-- The code belongs to its class, a pushed number fits in the form that its code stands for, and a table has a
target for each number of its range. -/
def Shaped {π : Type} : Instruction π → Prop
  | simple op => Opcode.isSimple op = true
  | push op value => op = Opcode.bipush ∧ fitsInByte value.toInt = true ∨ op = Opcode.sipush
  | localVar op _ => Opcode.isVariable op = true
  | jump op _ => Opcode.isJump op = true
  | tableSwitch _ low high ts => low ≤ high ∧ (ts.length : Int) = high.toInt - low.toInt + 1
  | field op _ => Opcode.isField op = true
  | method op _ => Opcode.isMethod op = true
  | type op _ => Opcode.isType op = true
  | _ => True

theorem shaped_map {π ρ : Type} (g : π → ρ) (i : Instruction π) : (i.map g).Shaped ↔ i.Shaped := by
  cases i <;> simp [map, Shaped]

/-- The targets lie in the code, and a jump's target is in reach of the form that is written. -/
structure Reaches (length start : Nat) (long : Bool) (i : Instruction Nat) : Prop where
  inside : ∀ t ∈ i.positions, t ≤ length
  jump : ∀ op t, i = .jump op t →
    if long then Opcode.isWidenable op = true else fitsInWord ((t : Int) - start) = true

end Instruction

open Instruction Operands

variable {length start : Nat} {long : Bool}

/-- An instruction is read back if its operands are and it ends inside the code. -/
theorem reads_of_operands (op : UInt8) {bytes : List UInt8} {i : Instruction Nat}
    (h : Reads (decodeOperands length start op) (start + 1) bytes i)
    (hstop : start + (op :: bytes).length ≤ length) : Reads (decodeInstruction length) start (op :: bytes) i := by
  rw [List.length_cons] at hstop
  intro rest
  simp only [decodeInstruction, List.cons_append, Operands.u1, h rest]
  rw [if_neg (by omega), List.length_cons, Nat.add_assoc, Nat.add_comm 1]

theorem toUInt16_toUInt8 {n : UInt16} (h : n < 256) : n.toUInt8.toUInt16 = n := by
  have hlt : n.toNat < 2 ^ 8 := UInt16.lt_iff_toNat_lt.mp h
  apply UInt16.toNat.inj
  rw [UInt8.toNat_toUInt16, UInt16.toNat_toUInt8, Nat.mod_eq_of_lt hlt]

theorem reads_localVar {op : UInt8} {index : UInt16} (hop : Opcode.isVariable op = true)
    (hstop : start + ((localVar op index).toBytes start long).length ≤ length) :
    Reads (decodeInstruction length) start ((localVar op index).toBytes start long) (localVar op index) := by
  obtain ⟨hsimple, hcompact⟩ := Opcode.isSimple_of_isVariable hop
  simp only [toBytes] at hstop ⊢
  cases hc : Opcode.compact? op index with
  | some compact =>
    obtain ⟨hsimple, hexpand⟩ := Opcode.expandCompact?_of_compact? hc
    have hdecode : decodeOperands length start compact = pure (localVar op index) := by
      simp only [decodeOperands, hsimple, hexpand]
      rfl
    rw [hc] at hstop
    refine reads_of_operands _ ?_ hstop
    rw [hdecode]
    exact Reads.pure _ _
  | none =>
    rw [hc] at hstop
    dsimp only at hstop ⊢
    by_cases hsmall : index < 256
    · rw [if_pos hsmall] at hstop ⊢
      have hdecode : decodeOperands length start op = (do return localVar op (← Operands.u1).toUInt16) := by
        simp only [decodeOperands, hsimple, hcompact, hop]
        rfl
      refine reads_of_operands _ ?_ hstop
      rw [hdecode]
      exact (Operands.reads_u1 index.toUInt8 _).bind_last (by rw [toUInt16_toUInt8 hsmall])
    · rw [if_neg hsmall] at hstop ⊢
      have hinc : op ≠ Opcode.iinc := by
        rintro rfl
        cases hop
      refine reads_of_operands Opcode.wide ?_ hstop
      refine (Operands.reads_u1 op _).bind ((Operands.reads_u2 index _).bind_last ?_)
      rw [if_neg hinc, if_pos hop]

theorem reads_increment {index : UInt16} {delta : Int16}
    (hstop : start + ((increment index delta).toBytes start long).length ≤ length) :
    Reads (decodeInstruction length) start ((increment index delta).toBytes start long) (increment index delta) := by
  simp only [toBytes] at hstop ⊢
  by_cases hsmall : (index < 256 && fitsInByte delta.toInt) = true
  · rw [if_pos hsmall] at hstop ⊢
    obtain ⟨hindex, hdelta⟩ := Bool.and_eq_true_iff.mp hsmall
    refine reads_of_operands Opcode.iinc ?_ hstop
    refine (Operands.reads_u1 index.toUInt8 _).bind ((Operands.reads_i1 hdelta _).bind_last ?_)
    rw [toUInt16_toUInt8 (of_decide_eq_true hindex)]
  · rw [if_neg hsmall] at hstop ⊢
    refine reads_of_operands Opcode.wide ?_ hstop
    refine (Operands.reads_u1 Opcode.iinc _).bind ((Operands.reads_u2 index _).bind ?_)
    exact (Operands.reads_i2 delta _).bind_pure (increment index)

theorem reads_loadConstant {index : UInt16} {twoSlots : Bool}
    (hstop : start + ((constant index twoSlots).toBytes start long).length ≤ length) :
    Reads (decodeInstruction length) start ((constant index twoSlots).toBytes start long) (constant index twoSlots) := by
  simp only [toBytes] at hstop ⊢
  cases twoSlots with
  | true => exact reads_of_operands Opcode.ldc2W ((Operands.reads_u2 index _).bind_pure (constant · true)) hstop
  | false =>
    rw [if_neg Bool.false_ne_true] at hstop ⊢
    by_cases hsmall : index < 256
    · rw [if_pos hsmall] at hstop ⊢
      refine reads_of_operands Opcode.ldc ?_ hstop
      exact (Operands.reads_u1 index.toUInt8 _).bind_last (by rw [toUInt16_toUInt8 hsmall])
    · rw [if_neg hsmall] at hstop ⊢
      exact reads_of_operands Opcode.ldcW ((Operands.reads_u2 index _).bind_pure (constant · false)) hstop

theorem reads_push {op : UInt8} {value : Int16}
    (hop : op = Opcode.bipush ∧ fitsInByte value.toInt = true ∨ op = Opcode.sipush)
    (hstop : start + ((push op value).toBytes start long).length ≤ length) :
    Reads (decodeInstruction length) start ((push op value).toBytes start long) (push op value) := by
  rcases hop with ⟨rfl, hfits⟩ | rfl
  · exact reads_of_operands Opcode.bipush ((Operands.reads_i1 hfits _).bind_pure (push Opcode.bipush)) hstop
  · exact reads_of_operands Opcode.sipush ((Operands.reads_i2 value _).bind_pure (push Opcode.sipush)) hstop

theorem reads_jump {op : UInt8} {target : Nat} (hop : Opcode.isJump op = true)
    (hreach : (jump op target).Reaches length start long) (hstart : start ≤ length) (hlen : length < 65536)
    (hstop : start + ((jump op target).toBytes start long).length ≤ length) :
    Reads (decodeInstruction length) start ((jump op target).toBytes start long) (jump op target) := by
  have hinside : target ≤ length := hreach.inside target (List.mem_singleton_self target)
  have hform := hreach.jump op target rfl
  cases long with
  | true =>
    have hgoto : op = Opcode.goto ∨ op = Opcode.jsr := by
      simpa [Opcode.isWidenable] using hform
    rcases hgoto with rfl | rfl
    · exact reads_of_operands Opcode.gotoW
        ((Operands.reads_target4 hstart hinside hlen _).bind_pure (jump Opcode.goto)) hstop
    · exact reads_of_operands Opcode.jsrW
        ((Operands.reads_target4 hstart hinside hlen _).bind_pure (jump Opcode.jsr)) hstop
  | false =>
    obtain ⟨hsimple, hcompact, hvariable⟩ := Opcode.isSimple_of_isJump hop
    have hdecode : decodeOperands length start op = (do
        let t ← (do let distance ← Operands.i2; Operands.target length start distance.toInt)
        return jump op t) := by
      simp only [decodeOperands, hsimple, hcompact, hvariable, hop, bind_assoc]
      rfl
    refine reads_of_operands _ ?_ hstop
    rw [hdecode]
    exact (Operands.reads_target2 hinside hform _).bind_pure (jump op)

theorem reads_tableSwitch {otherwise : Nat} {low high : Int32} {targets : List Nat}
    (hshape : (tableSwitch otherwise low high targets).Shaped)
    (hinside : ∀ t ∈ otherwise :: targets, t ≤ length) (hstart : start ≤ length) (hlen : length < 65536)
    (hstop : start + ((tableSwitch otherwise low high targets).toBytes start long).length ≤ length) :
    Reads (decodeInstruction length) start ((tableSwitch otherwise low high targets).toBytes start long)
      (tableSwitch otherwise low high targets) := by
  obtain ⟨hle, hcount⟩ := hshape
  rw [List.forall_mem_cons] at hinside
  have hrange : ¬high < low := Int32.not_lt.mpr hle
  have htargets : (high.toInt - low.toInt + 1).toNat = targets.length := by omega
  refine reads_of_operands Opcode.tableSwitch ?_ hstop
  have hpadding := Operands.reads_skip (paddingBytes start) (start + 1)
  rw [paddingBytes, List.length_replicate] at hpadding
  refine hpadding.bind ((Operands.reads_target4 hstart hinside.1 hlen _).bind ?_)
  refine (Operands.reads_i4 low _).bind ((Operands.reads_i4 high _).bind ?_)
  rw [if_neg hrange, htargets]
  exact (Operands.reads_targets hstart hlen targets hinside.2 [] _).bind_pure (tableSwitch otherwise low high)

theorem toInt_toInt32_ofNat {n : Nat} (h : n < 2147483648) : (UInt32.ofNat n).toInt32.toInt = n := by
  have hn : (UInt32.ofNat n).toBitVec.toNat = n := toNat_ofNat32 (by omega)
  show (UInt32.ofNat n).toBitVec.toInt = n
  rw [BitVec.toInt_eq_toNat_of_lt (by omega), hn]

theorem reads_lookupSwitch {otherwise : Nat} {pairs : List (Int32 × Nat)}
    (hinside : ∀ t ∈ otherwise :: pairs.map Prod.snd, t ≤ length) (hstart : start ≤ length) (hlen : length < 65536)
    (hstop : start + ((lookupSwitch otherwise pairs).toBytes start long).length ≤ length) :
    Reads (decodeInstruction length) start ((lookupSwitch otherwise pairs).toBytes start long)
      (lookupSwitch otherwise pairs) := by
  rw [List.forall_mem_cons, List.forall_mem_map] at hinside
  have hsize := length_toBytes (lookupSwitch otherwise pairs) start long
  rw [size] at hsize
  -- the pairs are in the code, so there are few enough of them for a signed count
  have hcount := toInt_toInt32_ofNat (n := pairs.length) (by omega)
  have hrange : ¬(UInt32.ofNat pairs.length).toInt32 < 0 := by
    rw [Int32.lt_iff_toInt_lt, hcount]
    exact Int.not_lt.mpr (Int.natCast_nonneg _)
  refine reads_of_operands Opcode.lookupSwitch ?_ hstop
  have hpadding := Operands.reads_skip (paddingBytes start) (start + 1)
  rw [paddingBytes, List.length_replicate] at hpadding
  refine hpadding.bind ((Operands.reads_target4 hstart hinside.1 hlen _).bind ?_)
  have hn := Operands.reads_i4 (UInt32.ofNat pairs.length).toInt32
  simp only [i32, UInt32.toUInt32_toInt32] at hn
  refine (hn _).bind ?_
  rw [if_neg hrange, hcount, Int.toNat_natCast]
  exact (Operands.reads_pairs hstart hlen pairs hinside.2 [] _).bind_pure (lookupSwitch otherwise)

/-- **An instruction reads back**, if its data has a form, its targets are within reach and it ends in the code. -/
theorem reads_instruction {i : Instruction Nat} (hmark : i.mark? = none) (hshape : i.Shaped)
    (hreach : i.Reaches length start long) (hlen : length < 65536) (hstop : start + i.size start long ≤ length) :
    Reads (decodeInstruction length) start (i.toBytes start long) i := by
  have hstart : start ≤ length := by omega
  rw [← length_toBytes] at hstop
  cases i with
  | mark p => cases hmark
  | simple op =>
    have hsimple : Opcode.isSimple op = true := hshape
    refine reads_of_operands _ ?_ hstop
    rw [decodeOperands, if_pos hsimple]
    exact Reads.pure _ _
  | push op value => exact reads_push hshape hstop
  | constant index twoSlots => exact reads_loadConstant hstop
  | localVar op index => exact reads_localVar hshape hstop
  | increment index delta => exact reads_increment hstop
  | jump op target => exact reads_jump hshape hreach hstart hlen hstop
  | tableSwitch d low high ts => exact reads_tableSwitch hshape hreach.inside hstart hlen hstop
  | lookupSwitch d ps => exact reads_lookupSwitch hreach.inside hstart hlen hstop
  | field op index =>
    rcases Opcode.eq_of_isField hshape with rfl | rfl | rfl | rfl <;>
      exact reads_of_operands _ ((Operands.reads_u2 index _).bind_pure (field _)) hstop
  | method op index =>
    rcases Opcode.eq_of_isMethod hshape with rfl | rfl | rfl <;>
      exact reads_of_operands _ ((Operands.reads_u2 index _).bind_pure (method _)) hstop
  | type op index =>
    rcases Opcode.eq_of_isType hshape with rfl | rfl | rfl | rfl <;>
      exact reads_of_operands _ ((Operands.reads_u2 index _).bind_pure (type _)) hstop
  | invokeInterface index count =>
    refine reads_of_operands Opcode.invokeInterface ?_ hstop
    refine (Operands.reads_u2 index _).bind ((Operands.reads_u1 count _).bind ?_)
    exact (Operands.reads_skip [0] _).bind_last rfl
  | invokeDynamic index =>
    refine reads_of_operands Opcode.invokeDynamic ?_ hstop
    exact (Operands.reads_u2 index _).bind ((Operands.reads_skip [0, 0] _).bind_last rfl)
  | newArray elements =>
    exact reads_of_operands Opcode.newArray ((Operands.reads_u1 elements _).bind_pure newArray) hstop
  | multiNewArray index dimensions =>
    refine reads_of_operands Opcode.multiNewArray ?_ hstop
    exact (Operands.reads_u2 index _).bind ((Operands.reads_u1 dimensions _).bind_pure (multiNewArray index))

end ClassWeaver
