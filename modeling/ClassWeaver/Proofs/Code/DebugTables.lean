import ClassWeaver.Proofs.Code.Reencoding

/-!
# Debug tables

The lines of a body and the ranges of its variables belong to instructions, and their rows move along with the
instructions when a body is read and written again. The rows of all line tables are put into one table. Of several
tables of variables, or of generic variable types, the rows of the last one are written and the others are gone.

## Contents

* `Listing.variableTables`, `Listing.typeTables` — the tables of a payload.
* `Listing.number_resolve` — which instruction an offset belongs to, before and after.
* `debugRows_of_encode` — the rows that are written.
* `twoTables` — a body that loses a variable.
-/

namespace ClassWeaver

open ConstantPool (Addition addUtf8)

namespace Listing

/-- The tables of variables, in the order of the file. -/
def variableTables (l : Listing) : List (List (VariableEntry Nat)) :=
  l.attributes.filterMap fun
    | .variableRows entries => some entries
    | _ => none

/-- The tables of generic variable types, in the order of the file. -/
def typeTables (l : Listing) : List (List (VariableEntry Nat)) :=
  l.attributes.filterMap fun
    | .variableTypes entries => some entries
    | _ => none

/-- The instructions, with the number of an instruction for its offset. -/
def numberedSteps (l : Listing) : List (Instruction Nat) :=
  l.steps.map fun s => s.2.map l.number

end Listing

namespace MethodBody

variable {b : MethodBody} {l : Layout} {xs : List (Instruction Label × Bool)} {p q : ConstantPool} {info : List UInt8}

theorem variableTables_listing (b : MethodBody) (l : Layout) :
    (b.listing l).variableTables.flatten = b.variableRows.map (·.map l.resolve) := by
  rw [Listing.variableTables, listing, filterMap_contents, filterMap_none]
  cases b.variableRows <;> simp

theorem typeTables_listing (b : MethodBody) (l : Layout) :
    (b.listing l).typeTables.flatten = b.variableTypes.map (·.map l.resolve) := by
  rw [Listing.typeTables, listing, filterMap_contents, filterMap_none]
  cases b.variableTypes <;> simp

end MethodBody

namespace Listing

variable {pool : ConstantPool} {old : Listing} {l : Layout} {xs : List (Instruction Label × Bool)}

section

variable (haccepted : old.Accepted pool) (hstray : old.stray? = none) (hl : l.Settled old.toBody.instructions xs)
  (hfound : ∀ label ∈ old.toBody.uses, l.Found label)

include haccepted hstray hl hfound

/-- **The offset of a label belongs to the instruction** to which the offset that it stands for belonged. -/
theorem number_resolve {offset : Nat} (h : offset ∈ old.used) :
    (old.toBody.listing l).number (l.resolve (labelOf old.numbering offset)) = old.number offset := by
  have hmem : labelOf old.numbering offset ∈ old.toBody.uses := by
    rw [uses_toBody haccepted]
    exact List.mem_map_of_mem h
  have hbefore := position?_labelOf haccepted hstray (mem_mentions_of_mem_used h)
  rw [MethodBody.position?_eq hl (hfound _ hmem)] at hbefore
  rw [← Option.some.inj hbefore]
  exact Layout.countP_listed l.resolve l.steps _

theorem numberedSteps_listing : (old.toBody.listing l).numberedSteps = old.numberedSteps := by
  have hunmarked : (Layout.realSteps l.steps).map PlacedInstruction.instruction =
      old.steps.map fun s => s.2.map (labelOf old.numbering) := by
    rw [hl.map_realSteps, ← unmarked_toBody haccepted]
    rfl
  calc (old.toBody.listing l).numberedSteps
    _ = ((Layout.realSteps l.steps).map PlacedInstruction.instruction).map fun i =>
          (i.map l.resolve).map (old.toBody.listing l).number := by
        rw [numberedSteps, MethodBody.listing, Layout.listed, List.map_map, List.map_map]
        rfl
    _ = old.numberedSteps := by
        rw [hunmarked, numberedSteps, List.map_map]
        refine List.map_congr_left fun s hs => ?_
        rw [Function.comp_apply, Instruction.map_map, Instruction.map_map]
        refine Instruction.map_congr fun offset hoffset => number_resolve haccepted hstray hl hfound ?_
        exact List.mem_append_left _ (List.mem_flatMap.mpr ⟨s, hs, hoffset⟩)

theorem lines_moved : (old.toBody.listing l).lines.map (·.map (old.toBody.listing l).number) =
    old.lines.map (·.map old.number) := by
  rw [MethodBody.lines_listing, List.map_map]
  show (old.lines.map _).map _ = _
  rw [List.map_map]
  refine List.map_congr_left fun e he => ?_
  exact congrArg (LineEntry.mk · e.line) (number_resolve haccepted hstray hl hfound (mem_used_of_line he))

theorem variables_moved {rows : List (VariableEntry Nat)}
    (hrows : ∀ v ∈ rows, v ∈ old.variableRows ++ old.variableTypes) :
    ((rows.map (·.map (labelOf old.numbering))).map (·.map l.resolve)).map (·.map (old.toBody.listing l).number) =
      rows.map (·.map old.number) := by
  rw [List.map_map, List.map_map]
  refine List.map_congr_left fun v hv => ?_
  have hnumber : ∀ offset ∈ v.positions, _ := fun offset hoffset =>
    number_resolve haccepted hstray hl hfound (mem_used_of_variable (hrows v hv) hoffset)
  simp only [VariableEntry.positions, List.forall_mem_cons] at hnumber
  simp only [Function.comp_apply, VariableEntry.map, hnumber.1, hnumber.2.1]

end

end Listing

namespace MethodBody

variable {b : MethodBody} {p q : ConstantPool} {info : List UInt8} {old : Listing}

/-- **The rows of a body that was read and written again.** In front of which instruction a row starts or ends, and what
it says there, is as it was for every line, and for every variable of the last table. -/
theorem debugRows_of_encode (hp : p.count ≤ 65535) (hlisting : Listing.decode p info = .ok old)
    (hdecode : MethodBody.decode p info = .ok b) (hsize : ∀ l, b.layout = .ok l → l.span < 4294967296)
    (hlines : b.lines.length ≤ 65535)
    (hframes : ∀ l, b.layout = .ok l → ∀ bytes, Frame.encodeTable l.offsetOf (b.frames.getD []) = .ok bytes →
      bytes.length < 4294967296) {payload : List UInt8} (h : b.encode p = (.ok payload, q)) :
    ∃ new, Listing.decode q payload = .ok new ∧ new.stray? = none ∧ new.numberedSteps = old.numberedSteps ∧
      new.lines.map (·.map new.number) = old.lines.map (·.map old.number) ∧
      new.variableTables.flatten.map (·.map new.number) =
        (Listing.last old.variableTables).map (·.map old.number) ∧
      new.typeTables.flatten.map (·.map new.number) = (Listing.last old.typeTables).map (·.map old.number) := by
  obtain ⟨l', hl', haccepted, hstray, rfl⟩ := decode_eq_ok hdecode
  cases hlisting.symm.trans hl'
  have hb := Listing.legible_toBody haccepted hstray hsize hlines hframes
  obtain ⟨l, xs, hl, hfound, -, hnew⟩ := hb.decode_listing hp h
  refine ⟨_, hnew, stray?_listing hl hfound, Listing.numberedSteps_listing haccepted hstray hl hfound,
    Listing.lines_moved haccepted hstray hl hfound, ?_, ?_⟩
  · rw [variableTables_listing]
    exact Listing.variables_moved haccepted hstray hl hfound fun v hv => List.mem_append_left _ hv
  · rw [typeTables_listing]
    exact Listing.variables_moved haccepted hstray hl hfound fun v hv => List.mem_append_right _ hv

/-! ## A body with two tables of variables -/

/-- A body that returns, with a variable in each of two tables. -/
def twoTables : List UInt8 :=
  [0, 0, 0, 2, 0, 0, 0, 1, 177, 0, 0, 0, 2, 0, 1, 0, 0, 0, 12, 0, 1, 0, 0, 0, 1, 0, 2, 0, 3, 0, 0, 0, 1, 0, 0, 0, 12, 0,
    1, 0, 0, 0, 1, 0, 4, 0, 3, 0, 1]

/-- The same with the second table only. -/
def secondTable : List UInt8 :=
  [0, 0, 0, 2, 0, 0, 0, 1, 177, 0, 0, 0, 1, 0, 1, 0, 0, 0, 12, 0, 1, 0, 0, 0, 1, 0, 4, 0, 3, 0, 1]

/-- The pool of both. -/
def twoTablesPool : ConstantPool :=
  texts ["LocalVariableTable", "x", "I", "y"]

/-- The listing of `twoTables`. -/
def twoTablesListing : Listing where
  maxStack := 0
  maxLocals := 2
  length := 1
  steps := [(0, .simple Opcode.voidReturn)]
  handlers := []
  attributes := [.variableRows [⟨0, 1, 2, 3, 0⟩], .variableRows [⟨0, 1, 4, 3, 1⟩]]

theorem listing_twoTables : Listing.decode twoTablesPool twoTables = .ok twoTablesListing :=
  rfl

theorem encode_twoTables : twoTablesListing.toBody.encode twoTablesPool = (.ok secondTable, twoTablesPool) := by
  have hname : addUtf8 "LocalVariableTable" twoTablesPool = (.ok 1, twoTablesPool) :=
    addUtf8_texts_again List.not_mem_nil (by decide)
  have hlayout : twoTablesListing.toBody.layout = .ok (.of twoTablesListing.toBody.instructions [false, false, false]) :=
    rfl
  have hrows : tableAttribute "LocalVariableTable"
      (Layout.of twoTablesListing.toBody.instructions [false, false, false]).variableBytes
      twoTablesListing.toBody.variableRows twoTablesPool =
        (.ok [⟨1, [0, 1, 0, 0, 0, 1, 0, 4, 0, 3, 0, 1]⟩], twoTablesPool) :=
    Addition.lift_bind_eq_ok.mpr ⟨_, rfl, Addition.bind_eq_ok.mpr ⟨_, _, hname, rfl⟩⟩
  refine Addition.lift_bind_eq_ok.mpr ⟨_, hlayout, ?_⟩
  rw [if_neg (by decide)]
  exact Addition.lift_bind_eq_ok.mpr ⟨_, rfl, Addition.lift_bind_eq_ok.mpr ⟨_, rfl,
    Addition.bind_eq_ok.mpr ⟨_, _, Addition.bind_eq_ok.mpr ⟨_, _, rfl, Addition.bind_eq_ok.mpr ⟨_, _, hrows,
      Addition.bind_eq_ok.mpr ⟨_, _, rfl, Addition.bind_eq_ok.mpr ⟨_, _, rfl, rfl⟩⟩⟩⟩, rfl⟩⟩⟩

/-- The variable of the first table is gone. -/
theorem twoTables_lose_a_row :
    ∃ b new, MethodBody.decode twoTablesPool twoTables = .ok b ∧
      b.encode twoTablesPool = (.ok secondTable, twoTablesPool) ∧
      Listing.decode twoTablesPool secondTable = .ok new ∧
      twoTablesListing.variableTables.flatten = [⟨0, 1, 2, 3, 0⟩, ⟨0, 1, 4, 3, 1⟩] ∧
      new.variableTables.flatten = [⟨0, 1, 4, 3, 1⟩] :=
  ⟨_, _, rfl, encode_twoTables, rfl, rfl, rfl⟩

/-- What is kept of the body is the second table. -/
theorem debugRows_twoTables :
    twoTablesPool.count ≤ 65535 ∧ Listing.decode twoTablesPool twoTables = .ok twoTablesListing ∧
      MethodBody.decode twoTablesPool twoTables = .ok twoTablesListing.toBody ∧
      twoTablesListing.toBody.encode twoTablesPool = (.ok secondTable, twoTablesPool) ∧
      ∃ new, Listing.decode twoTablesPool secondTable = .ok new ∧
        new.variableTables.flatten.map (·.map new.number) = [⟨0, 1, 4, 3, 1⟩] := by
  have hcount : twoTablesPool.count ≤ 65535 := by decide
  have hdecode : MethodBody.decode twoTablesPool twoTables = .ok twoTablesListing.toBody := rfl
  have hframes : ∀ l, twoTablesListing.toBody.layout = .ok l → ∀ bytes,
      Frame.encodeTable l.offsetOf (twoTablesListing.toBody.frames.getD []) = .ok bytes → bytes.length < 4294967296 := by
    intro l _ bytes hbytes
    have htable : Frame.encodeTable l.offsetOf (twoTablesListing.toBody.frames.getD []) = .ok [0, 0] := by
      show Frame.encodeTable l.offsetOf [] = _
      rw [Frame.encodeTable, List.mapM_nil, pure_bind, List.mergeSort_nil]
      rfl
    cases htable.symm.trans hbytes
    decide
  have hsize : ∀ l, twoTablesListing.toBody.layout = .ok l → l.span < 4294967296 := by
    intro l hl
    cases hl
    decide
  obtain ⟨new, hnew, -, -, -, hrows, -⟩ :=
    debugRows_of_encode hcount listing_twoTables hdecode hsize (by decide) hframes encode_twoTables
  exact ⟨hcount, listing_twoTables, hdecode, encode_twoTables, new, hnew, hrows⟩

end MethodBody

end ClassWeaver
