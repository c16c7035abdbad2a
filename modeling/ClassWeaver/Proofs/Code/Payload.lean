import ClassWeaver.Proofs.Code.Tables

/-!
# The payload of a body

The payload of a legible body is read as a listing: the body with every label replaced by its offset in the
layout, without marks.

## Contents

* `uses`, `mem_uses_of_instruction`, … `mem_uses_of_frame` — the labels a body refers to, part by part.
* `listing` — a body over the offsets of a layout.
* `encode_eq_ok` — the steps of writing a body.
* `Legible` — bodies that are read back, with as many attributes as fit beside their tables.
* `yields_encodeAttributes` — the attributes of a body.
* `Legible.decode_listing` — the payload read as a listing.
-/

namespace ClassWeaver.MethodBody

open Bytes Decoder
open ConstantPool (Addition)

variable {b : MethodBody} {l : Layout} {xs : List (Instruction Label × Bool)} {p q : ConstantPool}

/-- The labels that a body refers to; marks place labels and do not refer to them. -/
def uses (b : MethodBody) : List Label :=
  (b.instructions.filter (·.mark?.isNone)).flatMap Instruction.positions ++
    (b.handlers.flatMap Handler.positions ++ (b.lines.map LineEntry.start ++
      ((b.variableRows ++ b.variableTypes).flatMap VariableEntry.positions ++
        (b.frames.getD []).flatMap Frame.positions)))

section

variable {label : Label}

theorem mem_uses_of_instruction {i : Instruction Label} (hi : i ∈ b.instructions.filter (·.mark?.isNone))
    (h : label ∈ i.positions) : label ∈ b.uses :=
  List.mem_append_left _ (List.mem_flatMap.mpr ⟨i, hi, h⟩)

theorem mem_uses_of_handler {row : Handler Label} (hrow : row ∈ b.handlers) (h : label ∈ row.positions) :
    label ∈ b.uses := by
  have hmem := List.mem_flatMap.mpr ⟨row, hrow, h⟩
  simp only [uses, List.mem_append, hmem, true_or, or_true]

theorem mem_uses_of_line {e : LineEntry Label} (he : e ∈ b.lines) : e.start ∈ b.uses := by
  simp only [uses, List.mem_append, List.mem_map_of_mem he, true_or, or_true]

theorem mem_uses_of_variable {v : VariableEntry Label} (hv : v ∈ b.variableRows ++ b.variableTypes)
    (h : label ∈ v.positions) : label ∈ b.uses := by
  have hmem := List.mem_flatMap.mpr ⟨v, hv, h⟩
  simp only [uses, List.mem_append, hmem, true_or, or_true]

theorem mem_uses_of_frame {fr : Frame Label} (hfr : fr ∈ b.frames.getD []) (h : label ∈ fr.positions) :
    label ∈ b.uses := by
  have hmem := List.mem_flatMap.mpr ⟨fr, hfr, h⟩
  simp only [uses, List.mem_append, hmem, or_true]

end

/-- The body over the offsets of a layout. -/
def listing (b : MethodBody) (l : Layout) : Listing :=
  ⟨b.maxStack, b.maxLocals, l.length, Layout.listed l.resolve l.steps, b.handlers.map (·.map l.resolve), b.contents l⟩

/-- The steps of writing a body. -/
theorem encode_eq_ok {payload : List UInt8} (h : b.encode p = (.ok payload, q)) :
    ∃ l code attributes, b.layout = .ok l ∧ l.length ≤ 65535 ∧ l.code = .ok code ∧
      (∀ row ∈ b.handlers, ∀ label ∈ row.positions, l.Found label) ∧ b.encodeAttributes l p = (.ok attributes, q) ∧
      payload = u16 b.maxStack ++ (u16 b.maxLocals ++ (sized code ++ (count16 b.handlers.length ++
        ((b.handlers.map (·.map l.resolve)).flatMap handlerRow ++ countedBytes Attribute.toBytes attributes)))) := by
  rw [encode] at h
  obtain ⟨l, hlayout, h⟩ := Addition.lift_bind_eq_ok.mp h
  split at h
  · cases h
  · rename_i hlen
    obtain ⟨code, hcode, h⟩ := Addition.lift_bind_eq_ok.mp h
    obtain ⟨handlers, hhandlers, h⟩ := Addition.lift_bind_eq_ok.mp h
    obtain ⟨attributes, middle, hattributes, h⟩ := Addition.bind_eq_ok.mp h
    obtain ⟨rfl, rfl⟩ := Addition.pure_eq_ok.mp h
    have hrow : Totals (fun h => handlerRow (h.map l.resolve)) l.handlerBytes :=
      fun _ _ h => (Layout.handlerBytes_eq_ok.mp h).2
    obtain ⟨hrows, rfl⟩ := (Layout.rowBytes_eq_ok hrow).mp hhandlers
    refine ⟨l, code, attributes, hlayout, Nat.le_of_not_lt hlen, hcode, ?_, hattributes, ?_⟩
    · exact fun row hmem => (Layout.handlerBytes_eq_ok.mp (hrows row hmem)).1
    · rw [List.flatMap_map]

/-- A body whose tables can be written and read back, and whose attributes fit beside the tables. -/
structure Legible (b : MethodBody) (pool : ConstantPool) : Prop where
  tables : { b with attributes := [] }.WellFormed pool
  attributes : ∀ a ∈ b.attributes, a.Writable
  names : ∀ a ∈ b.attributes, ∃ name, pool.utf8 a.nameIndex = .ok name ∧ name ∉ interpretedNames
  count : ∀ l, (b.contents l).length ≤ 65535

theorem length_tableContents_le {β : Type} (make : List β → BodyAttribute) (rows : List β) :
    (tableContents make rows).length ≤ 1 := by
  rw [tableContents]
  split
  · exact Nat.zero_le 1
  · exact Nat.le_refl 1

/-- Four attributes are enough for the tables. -/
theorem WellFormed.legible (h : b.WellFormed p) : b.Legible p where
  tables := { h with attributes := nofun, names := nofun, attributesCount := Nat.zero_le _ }
  attributes := h.attributes
  names := h.names
  count l := by
    have hlines := length_tableContents_le .lines (b.lines.map (·.map l.resolve))
    have hrows := length_tableContents_le .variableRows (b.variableRows.map (·.map l.resolve))
    have htypes := length_tableContents_le .variableTypes (b.variableTypes.map (·.map l.resolve))
    have hframes := length_tableContents_le .frames
      ((Frame.sorted l.resolve (b.frames.getD [])).map (·.map l.resolve))
    have hcount := h.attributesCount
    simp only [contents, List.length_append, List.length_map BodyAttribute.carried]
    omega

/-- **The attributes of a body** are read as its contents over offsets. -/
theorem yields_encodeAttributes (hl : l.Settled b.instructions xs) (hlayout : b.layout = .ok l)
    (hlen : l.length < 65536) (hb : b.Legible p) (hp : p.count ≤ 65535) {attributes : List Attribute}
    (h : b.encodeAttributes l p = (.ok attributes, q)) :
    attributes.length ≤ 65535 ∧ Yields q l.length attributes (b.contents l) ∧ (∀ e ∈ b.lines, l.Found e.start) ∧
      (∀ v ∈ b.variableRows ++ b.variableTypes, ∀ label ∈ v.positions, l.Found label) ∧
      (∀ fr ∈ b.frames.getD [], ∀ label ∈ fr.positions, l.Found label) ∧
      Frame.Ascending 0 ((Frame.sorted l.resolve (b.frames.getD [])).map (Frame.located l.resolve)) := by
  have hranges := hb.tables.ranges l hlayout
  rw [List.forall_mem_append] at hranges
  rw [encodeAttributes] at h
  obtain ⟨lines, p₁, hlines, h⟩ := Addition.bind_eq_ok.mp h
  obtain ⟨variableRows, p₂, hvariableRows, h⟩ := Addition.bind_eq_ok.mp h
  obtain ⟨variableTypes, p₃, hvariableTypes, h⟩ := Addition.bind_eq_ok.mp h
  obtain ⟨frames, p₄, hframes, h⟩ := Addition.bind_eq_ok.mp h
  obtain ⟨rfl, rfl⟩ := Addition.pure_eq_ok.mp h
  obtain ⟨hx₁, hp₁, hfound₁, hy₁⟩ := yields_lines hl hlen hb.tables.linesCount hp hlines
  obtain ⟨hx₂, hp₂, hfound₂, hy₂⟩ := yields_variables hl hlen .variableRows (fun _ => rfl) (fun _ => rfl)
    hb.tables.variableRowsCount hranges.1 hp₁ hvariableRows
  obtain ⟨hx₃, hp₃, hfound₃, hy₃⟩ := yields_variables hl hlen .variableTypes (fun _ => rfl) (fun _ => rfl)
    hb.tables.variableTypesCount hranges.2 hp₂ hvariableTypes
  obtain ⟨hx₄, -, hfound₄, hascending, hy₄⟩ := yields_frameAttribute hl hlen hb.tables.framesCount hb.tables.frames
    (hb.tables.frameTable l hlayout) hp₃ hframes
  have hcarried : Yields p l.length b.attributes (b.attributes.map .carried) :=
    yields_carried hb.attributes hb.names
  -- each name stays in the pool through the additions that come after it
  have hy := (hy₁.of_extends (hx₂.of_extends (hx₃.of_extends hx₄))).append
    ((hy₂.of_extends (hx₃.of_extends hx₄)).append ((hy₃.of_extends hx₄).append (hy₄.append
      (hcarried.of_extends (hx₁.of_extends (hx₂.of_extends (hx₃.of_extends hx₄)))))))
  exact ⟨hy.length_eq ▸ hb.count l, hy, hfound₁, List.forall_mem_append.mpr ⟨hfound₂, hfound₃⟩, hfound₄, hascending⟩

/-- Every label that a body refers to is placed, if each part of the body found its own. -/
theorem found_uses (hl : l.Settled b.instructions xs)
    (hinstructions : ∀ s ∈ l.steps, ∀ label ∈ s.instruction.positions, l.Found label)
    (hhandlers : ∀ row ∈ b.handlers, ∀ label ∈ row.positions, l.Found label) (hlines : ∀ e ∈ b.lines, l.Found e.start)
    (hvariables : ∀ v ∈ b.variableRows ++ b.variableTypes, ∀ label ∈ v.positions, l.Found label)
    (hframes : ∀ fr ∈ b.frames.getD [], ∀ label ∈ fr.positions, l.Found label) : ∀ label ∈ b.uses, l.Found label := by
  intro label hlabel
  simp only [uses, List.mem_append] at hlabel
  rcases hlabel with h | h | h | h | h
  · obtain ⟨i, hi, hp⟩ := List.mem_flatMap.mp h
    rw [← hl.map_realSteps] at hi
    obtain ⟨s, hs, rfl⟩ := List.mem_map.mp hi
    exact hinstructions s (Layout.mem_realSteps.mp hs).1 label hp
  · obtain ⟨row, hrow, hp⟩ := List.mem_flatMap.mp h
    exact hhandlers row hrow label hp
  · obtain ⟨e, he, rfl⟩ := List.mem_map.mp h
    exact hlines e he
  · obtain ⟨v, hv, hp⟩ := List.mem_flatMap.mp h
    exact hvariables v hv label hp
  · obtain ⟨fr, hfr, hp⟩ := List.mem_flatMap.mp h
    exact hframes fr hfr label hp

/-- A payload is cut into its parts. -/
theorem parse_rawBody (maxStack maxLocals : UInt16) {code : List UInt8} (hcode : code.length < 4294967296)
    {handlers : List (Handler Nat)} (hhandlers : handlers.length < 65536)
    (hoffsets : ∀ row ∈ handlers, ∀ o ∈ row.positions, o < 65536) {attributes : List Attribute}
    (hattributes : attributes.length ≤ 65535) (hwritable : ∀ a ∈ attributes, a.Writable) :
    Decoder.parse RawBody.decode (u16 maxStack ++ (u16 maxLocals ++ (sized code ++ (count16 handlers.length ++
      (handlers.flatMap handlerRow ++ countedBytes Attribute.toBytes attributes))))) =
        .ok ⟨maxStack, maxLocals, code, handlers, attributes⟩ := by
  have hrows := reads_counted hhandlers fun row hrow => reads_handler (hoffsets row hrow)
  have hrest := (reads_countedBytes ⟨hattributes, hwritable⟩ reads_attribute).bind_pure
    (RawBody.mk maxStack maxLocals code handlers)
  apply Reads.parse
  refine (reads_u2 maxStack).bind ((reads_u2 maxLocals).bind ((reads_sizedRun hcode).bind ?_))
  rw [← List.append_assoc]
  exact hrows.bind hrest

/-- **The payload of a legible body is read as its listing**, and every label that it refers to is placed. -/
theorem Legible.decode_listing (hb : b.Legible p) (hp : p.count ≤ 65535) {payload : List UInt8}
    (h : b.encode p = (.ok payload, q)) :
    ∃ l xs, l.Settled b.instructions xs ∧ (∀ label ∈ b.uses, l.Found label) ∧
      Frame.Ascending 0 ((Frame.sorted l.resolve (b.frames.getD [])).map (Frame.located l.resolve)) ∧
      Listing.decode q payload = .ok (b.listing l) := by
  obtain ⟨l, code, attributes, hlayout, hle, hcode, hhandlers, hattributes, rfl⟩ := encode_eq_ok h
  obtain ⟨xs, hl⟩ := Layout.layout_settled hlayout (hb.tables.size l hlayout)
  have hlen : l.length < 65536 := Nat.lt_succ_of_le hle
  obtain ⟨hcount, hyields, hlines, hvariables, hframes, hascending⟩ :=
    yields_encodeAttributes hl hlayout hlen hb hp hattributes
  obtain ⟨hinstructions, hbytes⟩ := Layout.code_eq_ok.mp hcode
  have hlength : code.length = l.length := by
    rw [← hbytes, hl.length_code]
  have hinside : ∀ row ∈ b.handlers.map (·.map l.resolve), ∀ o ∈ row.positions, o ≤ l.length :=
    forall_positions_map (Handler.positions_map l.resolve) fun row hrow label hlabel =>
      hl.resolve_le (hhandlers row hrow label hlabel)
  have hfew : (b.handlers.map (·.map l.resolve)).length < 65536 := by
    rw [List.length_map]
    exact Nat.lt_succ_of_le hb.tables.handlersCount
  have hraw := parse_rawBody b.maxStack b.maxLocals (show code.length < 4294967296 by omega) hfew
    (fun row hrow o ho => Nat.lt_of_le_of_lt (hinside row hrow o ho) hlen) hcount hyields.writable
  rw [List.length_map] at hraw
  have hoffsets :
      checkOffsets code.length ((b.handlers.map (·.map l.resolve)).flatMap Handler.positions) = .ok () := by
    apply checkOffsets_eq_ok
    intro o ho
    obtain ⟨row, hrow, ho⟩ := List.mem_flatMap.mp ho
    exact hlength ▸ hinside row hrow o ho
  have hcontents := hyields.decode q (.refl q)
  rw [← hlength] at hcontents
  refine ⟨l, xs, hl, found_uses hl hinstructions hhandlers hlines hvariables hframes, hascending, ?_⟩
  rw [Listing.decode, hraw]
  simp only [bind, Except.bind, hl.decodeSteps_code hcode hb.tables.instructions hlen, hoffsets, hcontents]
  rw [hlength]
  rfl

theorem decode_encode_listing (hwf : b.WellFormed p) (hp : p.count ≤ 65535) {payload : List UInt8}
    (h : b.encode p = (.ok payload, q)) :
    ∃ l xs, l.Settled b.instructions xs ∧ (∀ label ∈ b.uses, l.Found label) ∧
      Frame.Ascending 0 ((Frame.sorted l.resolve (b.frames.getD [])).map (Frame.located l.resolve)) ∧
      Listing.decode q payload = .ok (b.listing l) :=
  hwf.legible.decode_listing hp h

end ClassWeaver.MethodBody
