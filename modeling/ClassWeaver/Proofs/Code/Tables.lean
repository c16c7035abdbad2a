import ClassWeaver.Proofs.ClassFile.PoolGrowth
import ClassWeaver.Proofs.ClassFile.RoundTrip
import ClassWeaver.Proofs.Code.Emission
import ClassWeaver.Proofs.Code.FrameTable

/-!
# Tables of a body

The handlers and the attributes of a body are rows of offsets. Each row is written from labels and read back as the
same row over offsets; the attributes get names from the constant pool, and the pool goes on naming them.

## Contents

* `handlerRow`, `lineRow`, `variableRow` — rows over offsets as bytes, and reading them.
* `Yields` — attributes that are read as given contents in every later pool.
* `yields_tableAttribute`, `yields_frameAttribute`, `yields_carried` — one table, and what is carried along.
* `WellFormed`, `contents` — bodies that can be written and read back, and what their attributes hold.
-/

namespace ClassWeaver

open Bytes Decoder

/-! ## Rows -/

/-- A row of the table of handlers, over offsets. -/
def handlerRow (h : Handler Nat) : List UInt8 :=
  count16 h.start ++ (count16 h.stop ++ (count16 h.handler ++ u16 h.catchType))

/-- A row of a table of line numbers, over offsets. -/
def lineRow (e : LineEntry Nat) : List UInt8 :=
  count16 e.start ++ u16 e.line

/-- A row of a table of variables, over offsets. -/
def variableRow (v : VariableEntry Nat) : List UInt8 :=
  count16 v.start ++ (count16 (v.stop - v.start) ++ (u16 v.nameIndex ++ (u16 v.typeIndex ++ u16 v.index)))

theorem reads_handler {h : Handler Nat} (hp : ∀ p ∈ h.positions, p < 65536) :
    Reads RawBody.decodeHandler (handlerRow h) h := by
  obtain ⟨hstart, hstop, hhandler⟩ : h.start < 65536 ∧ h.stop < 65536 ∧ h.handler < 65536 := by
    simpa [Handler.positions] using hp
  have hread : Reads RawBody.decodeHandler (handlerRow h) ⟨_, _, _, h.catchType⟩ :=
    (reads_u2 _).bind ((reads_u2 _).bind ((reads_u2 _).bind ((reads_u2 h.catchType).bind_pure _)))
  rwa [toNat_ofNat16 hstart, toNat_ofNat16 hstop, toNat_ofNat16 hhandler] at hread

theorem reads_line {e : LineEntry Nat} (he : e.start < 65536) :
    Reads BodyAttribute.decodeLine (lineRow e) e := by
  have hread : Reads BodyAttribute.decodeLine (lineRow e) ⟨_, e.line⟩ :=
    (reads_u2 _).bind ((reads_u2 e.line).bind_pure _)
  rwa [toNat_ofNat16 he] at hread

theorem reads_variable {v : VariableEntry Nat} (hrange : v.start ≤ v.stop) (hstop : v.stop < 65536) :
    Reads BodyAttribute.decodeVariable (variableRow v) v := by
  have hread : Reads BodyAttribute.decodeVariable (variableRow v) ⟨_, _, v.nameIndex, v.typeIndex, v.index⟩ :=
    (reads_u2 _).bind ((reads_u2 _).bind ((reads_u2 v.nameIndex).bind ((reads_u2 v.typeIndex).bind
      ((reads_u2 v.index).bind_pure _))))
  rwa [toNat_ofNat16 (Nat.lt_of_le_of_lt hrange hstop),
    toNat_ofNat16 (Nat.lt_of_le_of_lt (Nat.sub_le _ _) hstop), Nat.add_sub_cancel' hrange] at hread

namespace Layout

variable {l : Layout}

theorem offsetBytes_eq_ok {label : Label} {bytes : List UInt8} :
    l.offsetBytes label = .ok bytes ↔ l.Found label ∧ count16 (l.resolve label) = bytes := by
  rw [offsetBytes, l.totals_resolve.map_eq_ok, eq_comm (a := bytes)]

theorem totals_offsetBytes (l : Layout) : Totals (fun label => count16 (l.resolve label)) l.offsetBytes :=
  fun _ _ h => (offsetBytes_eq_ok.mp h).2

theorem handlerBytes_eq_ok {h : Handler Label} {bytes : List UInt8} :
    l.handlerBytes h = .ok bytes ↔
      (∀ p ∈ h.positions, l.Found p) ∧ handlerRow (h.map l.resolve) = bytes := by
  rw [handlerBytes, l.totals_offsetBytes.bind_eq_ok, l.totals_offsetBytes.bind_eq_ok,
    l.totals_offsetBytes.bind_eq_ok]
  simp [offsetBytes_eq_ok, Handler.positions, handlerRow, Handler.map, pure, Except.pure, and_assoc]

theorem lineBytes_eq_ok {e : LineEntry Label} {bytes : List UInt8} :
    l.lineBytes e = .ok bytes ↔
      l.Found e.start ∧ lineRow (e.map l.resolve) = bytes := by
  rw [lineBytes, l.totals_offsetBytes.bind_eq_ok]
  simp [offsetBytes_eq_ok, lineRow, LineEntry.map, pure, Except.pure]

theorem variableBytes_eq_ok {v : VariableEntry Label} {bytes : List UInt8} :
    l.variableBytes v = .ok bytes ↔
      (∀ p ∈ v.positions, l.Found p) ∧ variableRow (v.map l.resolve) = bytes := by
  rw [variableBytes, l.totals_resolve.bind_eq_ok, l.totals_resolve.bind_eq_ok]
  simp [VariableEntry.positions, variableRow, VariableEntry.map, pure, Except.pure, and_assoc]

end Layout

/-! ## Attributes and their contents -/

/-- Every offset lies in the code. -/
theorem checkOffsets_eq_ok {length : Nat} {offsets : List Nat} (h : ∀ o ∈ offsets, o ≤ length) :
    checkOffsets length offsets = .ok () := by
  induction offsets with
  | nil => rfl
  | cons o rest ih =>
    rw [List.forall_mem_cons] at h
    have hcheck : checkOffset length o = .ok o := by
      rw [checkOffset, if_pos ⟨by omega, by omega⟩]
      rfl
    show ((do let _ ← checkOffset length o) >>= fun _ => checkOffsets length rest) = .ok ()
    rw [hcheck]
    exact ih h.2

/-- The attributes can be written, and are read as the given contents in this pool and in every later one. -/
structure Yields (pool : ConstantPool) (length : Nat) (attributes : List Attribute) (contents : List BodyAttribute) :
    Prop where
  writable : ∀ a ∈ attributes, a.Writable
  decode : ∀ later, pool.Extends later → attributes.mapM (BodyAttribute.decode later length) = .ok contents

namespace Yields

variable {pool later : ConstantPool} {length : Nat} {as bs : List Attribute} {cs ds : List BodyAttribute}

theorem nil (pool : ConstantPool) (length : Nat) : Yields pool length [] [] :=
  ⟨nofun, fun _ _ => rfl⟩

theorem cons {a : Attribute} {c : BodyAttribute} (ha : a.Writable)
    (hc : ∀ later, pool.Extends later → BodyAttribute.decode later length a = .ok c)
    (has : Yields pool length as cs) : Yields pool length (a :: as) (c :: cs) := by
  refine ⟨List.forall_mem_cons.mpr ⟨ha, has.writable⟩, fun later hlater => ?_⟩
  rw [List.mapM_cons, hc later hlater, has.decode later hlater]
  rfl

theorem append (has : Yields pool length as cs) (hbs : Yields pool length bs ds) :
    Yields pool length (as ++ bs) (cs ++ ds) := by
  refine ⟨List.forall_mem_append.mpr ⟨has.writable, hbs.writable⟩, fun later hlater => ?_⟩
  rw [List.mapM_append, has.decode later hlater, hbs.decode later hlater]
  rfl

theorem length_eq (h : Yields pool length as cs) : as.length = cs.length := by
  have hdecode := h.decode pool (.refl pool)
  obtain ⟨-, rfl⟩ := (totals_getD (BodyAttribute.decode pool length) .dropped).mapM_eq_ok.mp hdecode
  rw [List.length_map]

theorem of_extends (h : pool.Extends later) (has : Yields pool length as cs) : Yields later length as cs :=
  ⟨has.writable, fun last hlast => has.decode last (h.of_extends hlast)⟩

end Yields

/-- An attribute is read by its name and payload, if its offsets lie in the code. -/
theorem decode_attribute {pool : ConstantPool} {length : Nat} {a : Attribute} {name : String} {c : BodyAttribute}
    (hname : pool.utf8 a.nameIndex = .ok name) (hc : BodyAttribute.decodeNamed name a = .ok c)
    (hinside : ∀ o ∈ c.positions, o ≤ length) : BodyAttribute.decode pool length a = .ok c := by
  rw [BodyAttribute.decode, hname]
  show (BodyAttribute.decodeNamed name a >>= fun content => _) = _
  rw [hc]
  show (checkOffsets length c.positions >>= fun _ => _) = _
  rw [checkOffsets_eq_ok hinside]
  rfl

/-- The contents of a table; one without rows is not there. -/
def tableContents {β : Type} (make : List β → BodyAttribute) (rows : List β) : List BodyAttribute :=
  if rows.isEmpty then [] else [make rows]

namespace MethodBody

open ConstantPool (Addition addUtf8 addUtf8_eq_ok Extends)

variable {p q : ConstantPool} {l : Layout} {attributes : List Attribute}

/-- A table that has rows is written behind their number, under its name. -/
theorem tableAttribute_eq_ok {α : Type} {name : String} {row : α → Except Defect (List UInt8)}
    {write : α → List UInt8} (hrow : Totals write row) {rows : List α}
    (h : tableAttribute name row rows p = (.ok attributes, q)) :
    (∀ r ∈ rows, row r = .ok (write r)) ∧
      (rows = [] ∧ attributes = [] ∧ p = q ∨
        rows ≠ [] ∧ ∃ i, addUtf8 name p = (.ok i, q) ∧
          attributes = [⟨i, count16 rows.length ++ rows.flatMap write⟩]) := by
  rw [tableAttribute] at h
  cases rows with
  | nil =>
    obtain ⟨rfl, rfl⟩ := Addition.pure_eq_ok.mp h
    exact ⟨nofun, .inl ⟨rfl, rfl, rfl⟩⟩
  | cons r rest =>
    obtain ⟨bytes, hwritten, h⟩ := Addition.lift_bind_eq_ok.mp h
    obtain ⟨i, middle, hi, h⟩ := Addition.bind_eq_ok.mp h
    obtain ⟨rfl, rfl⟩ := Addition.pure_eq_ok.mp h
    obtain ⟨hrows, rfl⟩ := (Layout.rowBytes_eq_ok hrow).mp hwritten
    exact ⟨hrows, .inr ⟨nofun, i, hi, rfl⟩⟩

/-- **A table is read back** from the attribute that it was written into. -/
theorem yields_tableAttribute {α β : Type} {name : String} {row : α → Except Defect (List UInt8)}
    {write : β → List UInt8} {resolve : α → β} (hrow : Totals (fun r => write (resolve r)) row)
    (item : Decoder β) (make : List β → BodyAttribute) (width : Nat)
    (hname : ∀ a, BodyAttribute.decodeNamed name a = make <$> Decoder.parse (Decoder.counted item) a.info)
    (hwidth : ∀ r, (write r).length = width) (hnarrow : width ≤ 10) {length : Nat} {rows : List α}
    (hcount : rows.length ≤ 65535)
    (hread : (∀ r ∈ rows, row r = .ok (write (resolve r))) →
      (∀ r ∈ rows.map resolve, Reads item (write r) r) ∧ ∀ o ∈ (make (rows.map resolve)).positions, o ≤ length)
    (hp : p.count ≤ 65535) (h : tableAttribute name row rows p = (.ok attributes, q)) :
    p.Extends q ∧ q.count ≤ 65535 ∧ (∀ r ∈ rows, row r = .ok (write (resolve r))) ∧
      Yields q length attributes (tableContents make (rows.map resolve)) := by
  obtain ⟨hrows, ⟨rfl, rfl, rfl⟩ | ⟨hne, i, hi, rfl⟩⟩ := tableAttribute_eq_ok hrow h
  · exact ⟨.refl p, hp, hrows, .nil p length⟩
  · obtain ⟨hextends, hcount', hutf8⟩ := addUtf8_eq_ok hp hi
    -- the rows were written, so every label in them was found and lies in the code
    obtain ⟨hread, hinside⟩ := hread hrows
    have hcontents : tableContents make (rows.map resolve) = [make (rows.map resolve)] := by
      rw [tableContents, List.isEmpty_map, if_neg (by simpa using hne)]
    have hbytes : rows.flatMap (fun r => write (resolve r)) = (rows.map resolve).flatMap write := by
      rw [List.flatMap_map]
    rw [hcontents, hbytes]
    refine ⟨hextends, hcount', hrows, .cons ?_ (fun later hlater => ?_) (.nil q length)⟩
    · have hlength := Instruction.length_flatMap_of_forall hwidth (rows.map resolve)
      have hmul := Nat.mul_le_mul hnarrow hcount
      rw [List.length_map] at hlength
      show (count16 rows.length ++ (rows.map resolve).flatMap write).length < 4294967296
      rw [List.length_append, hlength]
      show 2 + width * rows.length < 4294967296
      omega
    · refine decode_attribute (hlater.utf8 hutf8) ?_ hinside
      have htable := reads_counted (by rw [List.length_map]; omega) hread
      rw [List.length_map] at htable
      rw [hname, htable.parse]
      rfl

/-- A table of frames is read back. -/
theorem decode_frameTable {is : List (Instruction Label)} {xs : List (Instruction Label × Bool)}
    (hl : l.Settled is xs) (hlen : l.length < 65536) {frames : List (Frame Label)} (hcount : frames.length ≤ 65535)
    (hshaped : ∀ fr ∈ frames, fr.kind.Shaped) (hfound : ∀ fr ∈ frames, ∀ label ∈ fr.positions, l.Found label)
    (hascending : Frame.Ascending 0 ((Frame.sorted l.resolve frames).map (Frame.located l.resolve)))
    {i : UInt16} (hname : p.utf8 i = .ok "StackMapTable") :
    BodyAttribute.decode p l.length ⟨i, count16 frames.length ++ Frame.rowBytes (Frame.gaps 0
      ((Frame.sorted l.resolve frames).map fun fr => (l.resolve fr.position, fr.kind.map l.resolve)))⟩ =
        .ok (.frames ((Frame.sorted l.resolve frames).map (·.map l.resolve))) := by
  have hinside : ∀ fr ∈ Frame.sorted l.resolve frames, ∀ label ∈ fr.positions, l.resolve label ≤ l.length :=
    fun fr hfr label hlabel => hl.resolve_le (hfound fr (Frame.mem_sorted.mp hfr) label hlabel)
  have hlength := Frame.length_sorted l.resolve frames
  have hparse := Frame.parse_table hascending (by omega)
    (fun fr hfr => hshaped fr (Frame.mem_sorted.mp hfr))
    (fun fr hfr label hlabel => Nat.lt_of_le_of_lt (hinside fr hfr label hlabel) hlen)
  rw [hlength] at hparse
  refine decode_attribute hname ?_ ?_
  · show (BodyAttribute.frames ∘ Frame.place 0) <$> Decoder.parse Frame.decodeTable _ = _
    rw [comp_map, hparse]
    rfl
  · show ∀ o ∈ ((Frame.sorted l.resolve frames).map (·.map l.resolve)).flatMap Frame.positions, o ≤ l.length
    rw [List.forall_mem_flatMap]
    exact forall_positions_map (Frame.positions_map l.resolve) hinside

/-- Frames are written in the order of their offsets. -/
theorem yields_frameAttribute {is : List (Instruction Label)} {xs : List (Instruction Label × Bool)}
    (hl : l.Settled is xs) (hlen : l.length < 65536) {frames : List (Frame Label)} (hcount : frames.length ≤ 65535)
    (hshaped : ∀ fr ∈ frames, fr.kind.Shaped)
    (hsize : ∀ bytes, Frame.encodeTable l.offsetOf frames = .ok bytes → bytes.length < 4294967296)
    (hp : p.count ≤ 65535) (h : frameAttribute l frames p = (.ok attributes, q)) :
    p.Extends q ∧ q.count ≤ 65535 ∧ (∀ fr ∈ frames, ∀ label ∈ fr.positions, l.Found label) ∧
      Frame.Ascending 0 ((Frame.sorted l.resolve frames).map (Frame.located l.resolve)) ∧
      Yields q l.length attributes
        (tableContents .frames ((Frame.sorted l.resolve frames).map (·.map l.resolve))) := by
  rw [frameAttribute] at h
  cases frames with
  | nil =>
    obtain ⟨rfl, rfl⟩ := Addition.pure_eq_ok.mp h
    have hnil : Frame.sorted l.resolve [] = [] := List.mergeSort_nil
    rw [hnil]
    exact ⟨.refl p, hp, nofun, trivial, .nil p l.length⟩
  | cons first rest =>
    obtain ⟨bytes, hwritten, h⟩ := Addition.lift_bind_eq_ok.mp h
    obtain ⟨i, middle, hi, h⟩ := Addition.bind_eq_ok.mp h
    obtain ⟨rfl, rfl⟩ := Addition.pure_eq_ok.mp h
    have hwritable := hsize bytes hwritten
    have hne : 0 < (first :: rest).length := Nat.zero_lt_succ _
    -- from here on only the number of frames matters
    generalize first :: rest = frames at *
    obtain ⟨hfound, hascending, rfl⟩ := (Frame.encodeTable_eq_ok l.totals_resolve).mp hwritten
    obtain ⟨hextends, hcount', hutf8⟩ := addUtf8_eq_ok hp hi
    have hcontents : tableContents .frames ((Frame.sorted l.resolve frames).map (·.map l.resolve)) =
        [.frames ((Frame.sorted l.resolve frames).map (·.map l.resolve))] := by
      rw [tableContents, if_neg]
      rw [List.isEmpty_iff, ← List.length_eq_zero_iff, List.length_map, Frame.length_sorted]
      omega
    rw [hcontents]
    refine ⟨hextends, hcount', hfound, hascending, .cons hwritable (fun later hlater => ?_) (.nil middle l.length)⟩
    exact decode_frameTable hl hlen hcount hshaped hfound hascending (hlater.utf8 hutf8)

/-! ## All attributes -/

/-- The names of the attributes of a body that are read further than as a payload. -/
def interpretedNames : List String :=
  ["LineNumberTable", "LocalVariableTable", "LocalVariableTypeTable", "StackMapTable",
    "RuntimeVisibleTypeAnnotations", "RuntimeInvisibleTypeAnnotations"]

theorem decodeNamed_of_notMem {name : String} (h : name ∉ interpretedNames) (a : Attribute) :
    BodyAttribute.decodeNamed name a = .ok (.carried a) := by
  unfold BodyAttribute.decodeNamed
  split
  all_goals first | rfl | exact absurd (by decide) h

/-- What is carried along is read as it is. -/
theorem yields_carried {pool : ConstantPool} {length : Nat} {carried : List Attribute}
    (hwritable : ∀ a ∈ carried, a.Writable)
    (hname : ∀ a ∈ carried, ∃ name, pool.utf8 a.nameIndex = .ok name ∧ name ∉ interpretedNames) :
    Yields pool length carried (carried.map .carried) := by
  induction carried with
  | nil => exact .nil pool length
  | cons a rest ih =>
    rw [List.forall_mem_cons] at hwritable hname
    obtain ⟨⟨name, hutf8, hnot⟩, hname⟩ := hname
    exact .cons hwritable.1
      (fun later hlater => decode_attribute (hlater.utf8 hutf8) (decodeNamed_of_notMem hnot a) nofun)
      (ih hwritable.2 hname)

/-- A body whose parts have forms in which they can be written and read back, in the given pool. -/
structure WellFormed (b : MethodBody) (pool : ConstantPool) : Prop where
  instructions : ∀ i ∈ b.instructions, i.Shaped
  /-- The length of the code array can be counted in 32 bits. -/
  size : ∀ l, b.layout = .ok l → l.span < 4294967296
  frames : ∀ fr ∈ b.frames.getD [], fr.kind.Shaped
  /-- No range of a variable ends in front of its start. -/
  ranges : ∀ l, b.layout = .ok l → ∀ v ∈ b.variableRows ++ b.variableTypes, ∀ start stop,
    l.offsetOf v.start = .ok start → l.offsetOf v.stop = .ok stop → start ≤ stop
  handlersCount : b.handlers.length ≤ 65535
  linesCount : b.lines.length ≤ 65535
  variableRowsCount : b.variableRows.length ≤ 65535
  variableTypesCount : b.variableTypes.length ≤ 65535
  framesCount : (b.frames.getD []).length ≤ 65535
  /-- There is room for the tables, which are attributes too. -/
  attributesCount : b.attributes.length ≤ 65531
  attributes : ∀ a ∈ b.attributes, a.Writable
  frameTable : ∀ l, b.layout = .ok l → ∀ bytes, Frame.encodeTable l.offsetOf (b.frames.getD []) = .ok bytes →
    bytes.length < 4294967296
  names : ∀ a ∈ b.attributes, ∃ name, pool.utf8 a.nameIndex = .ok name ∧ name ∉ interpretedNames

/-- The contents of the attributes of a body, over the offsets of its layout. -/
def contents (b : MethodBody) (l : Layout) : List BodyAttribute :=
  tableContents .lines (b.lines.map (·.map l.resolve)) ++
    (tableContents .variableRows (b.variableRows.map (·.map l.resolve)) ++
      (tableContents .variableTypes (b.variableTypes.map (·.map l.resolve)) ++
        (tableContents .frames ((Frame.sorted l.resolve (b.frames.getD [])).map (·.map l.resolve)) ++
          b.attributes.map .carried)))

section

variable {is : List (Instruction Label)} {xs : List (Instruction Label × Bool)}

theorem yields_lines (hl : l.Settled is xs) (hlen : l.length < 65536) {rows : List (LineEntry Label)}
    (hcount : rows.length ≤ 65535) (hp : p.count ≤ 65535)
    (h : tableAttribute "LineNumberTable" l.lineBytes rows p = (.ok attributes, q)) :
    p.Extends q ∧ q.count ≤ 65535 ∧ (∀ e ∈ rows, l.Found e.start) ∧
      Yields q l.length attributes (tableContents .lines (rows.map (·.map l.resolve))) := by
  have hrow : Totals (fun e => lineRow (e.map l.resolve)) l.lineBytes :=
    fun _ _ h => (Layout.lineBytes_eq_ok.mp h).2
  have hread : (∀ e ∈ rows, l.lineBytes e = .ok (lineRow (e.map l.resolve))) →
      (∀ e ∈ rows.map (·.map l.resolve), Reads BodyAttribute.decodeLine (lineRow e) e) ∧
        ∀ o ∈ (BodyAttribute.lines (rows.map (·.map l.resolve))).positions, o ≤ l.length := by
    intro hrows
    have hinside : ∀ e ∈ rows, l.resolve e.start ≤ l.length :=
      fun e he => hl.resolve_le (Layout.lineBytes_eq_ok.mp (hrows e he)).1
    constructor
    · rw [List.forall_mem_map]
      exact fun e he => reads_line (Nat.lt_of_le_of_lt (hinside e he) hlen)
    · simpa [BodyAttribute.positions, LineEntry.map] using hinside
  obtain ⟨hextends, hcount', hrows, hyields⟩ := yields_tableAttribute hrow BodyAttribute.decodeLine .lines 4
    (fun _ => rfl) (fun _ => rfl) (by decide) hcount hread hp h
  exact ⟨hextends, hcount', fun e he => (Layout.lineBytes_eq_ok.mp (hrows e he)).1, hyields⟩

/-- Either table of variables; they differ in their names only. -/
theorem yields_variables (hl : l.Settled is xs) (hlen : l.length < 65536) {name : String}
    (make : List (VariableEntry Nat) → BodyAttribute)
    (hname : ∀ a, BodyAttribute.decodeNamed name a =
      make <$> Decoder.parse (Decoder.counted BodyAttribute.decodeVariable) a.info)
    (hpositions : ∀ rows, (make rows).positions = rows.flatMap VariableEntry.positions)
    {rows : List (VariableEntry Label)} (hcount : rows.length ≤ 65535)
    (hranges : ∀ v ∈ rows, ∀ start stop, l.offsetOf v.start = .ok start → l.offsetOf v.stop = .ok stop → start ≤ stop)
    (hp : p.count ≤ 65535) (h : tableAttribute name l.variableBytes rows p = (.ok attributes, q)) :
    p.Extends q ∧ q.count ≤ 65535 ∧ (∀ v ∈ rows, ∀ label ∈ v.positions, l.Found label) ∧
      Yields q l.length attributes (tableContents make (rows.map (·.map l.resolve))) := by
  have hrow : Totals (fun v => variableRow (v.map l.resolve)) l.variableBytes :=
    fun _ _ h => (Layout.variableBytes_eq_ok.mp h).2
  have hread : (∀ v ∈ rows, l.variableBytes v = .ok (variableRow (v.map l.resolve))) →
      (∀ v ∈ rows.map (·.map l.resolve), Reads BodyAttribute.decodeVariable (variableRow v) v) ∧
        ∀ o ∈ (make (rows.map (·.map l.resolve))).positions, o ≤ l.length := by
    intro hrows
    have hfound : ∀ v ∈ rows, l.Found v.start ∧ l.Found v.stop := by
      intro v hv
      have := (Layout.variableBytes_eq_ok.mp (hrows v hv)).1
      simpa [VariableEntry.positions] using this
    constructor
    · rw [List.forall_mem_map]
      intro v hv
      obtain ⟨hstart, hstop⟩ := hfound v hv
      exact reads_variable (hranges v hv _ _ hstart hstop) (Nat.lt_of_le_of_lt (hl.resolve_le hstop) hlen)
    · rw [hpositions, List.forall_mem_flatMap]
      exact forall_positions_map (VariableEntry.positions_map l.resolve) fun v hv label hlabel =>
        hl.resolve_le ((Layout.variableBytes_eq_ok.mp (hrows v hv)).1 label hlabel)
  obtain ⟨hextends, hcount', hrows, hyields⟩ := yields_tableAttribute hrow BodyAttribute.decodeVariable make 10
    hname (fun _ => rfl) (by decide) hcount hread hp h
  exact ⟨hextends, hcount', fun v hv => (Layout.variableBytes_eq_ok.mp (hrows v hv)).1, hyields⟩

end

end MethodBody

end ClassWeaver
