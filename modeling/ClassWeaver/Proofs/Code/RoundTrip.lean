import ClassWeaver.Proofs.Code.Numbering
import ClassWeaver.Proofs.Code.Payload

/-!
# Bodies read back

A well-formed body that was written is read back as the same body under other labels. Labels at one place become
one label, which is marked once; everything else in the body is as it was, but for the order of the frames.

## Contents

* `lines_listing`, … `carried_listing` — the tables of a listing.
* `mentions_listing` — the offsets that it mentions.
* `Renames`, `renames_toBody` — the same body under other labels.
* `decode_encode` — writing and reading a body.
-/

namespace ClassWeaver.MethodBody

open ConstantPool (Addition)

variable {b : MethodBody} {l : Layout} {xs : List (Instruction Label × Bool)} {p q : ConstantPool}

/-! ## The tables of a listing -/

theorem flatMap_tableContents {β γ : Type} (make : List β → BodyAttribute) (rows : List β)
    (f : BodyAttribute → List γ) :
    (tableContents make rows).flatMap f = if rows.isEmpty then [] else f (make rows) := by
  rw [tableContents]
  split
  · rfl
  · exact List.flatMap_singleton ..

theorem filterMap_tableContents {β γ : Type} (make : List β → BodyAttribute) (rows : List β)
    (f : BodyAttribute → Option γ) :
    (tableContents make rows).filterMap f = if rows.isEmpty then [] else (f (make rows)).toList := by
  rw [tableContents]
  split
  · rfl
  · cases h : f (make rows) <;> simp [h]

theorem flatMap_contents {γ : Type} (b : MethodBody) (l : Layout) (f : BodyAttribute → List γ) :
    (b.contents l).flatMap f =
      (if b.lines.isEmpty then [] else f (.lines (b.lines.map (·.map l.resolve)))) ++
      ((if b.variableRows.isEmpty then [] else f (.variableRows (b.variableRows.map (·.map l.resolve)))) ++
      ((if b.variableTypes.isEmpty then [] else f (.variableTypes (b.variableTypes.map (·.map l.resolve)))) ++
      ((if (Frame.sorted l.resolve (b.frames.getD [])).isEmpty then []
        else f (.frames ((Frame.sorted l.resolve (b.frames.getD [])).map (·.map l.resolve)))) ++
      b.attributes.flatMap fun a => f (.carried a)))) := by
  simp only [contents, List.flatMap_append, flatMap_tableContents, List.isEmpty_map, List.flatMap_map]

theorem filterMap_contents {γ : Type} (b : MethodBody) (l : Layout) (f : BodyAttribute → Option γ) :
    (b.contents l).filterMap f =
      (if b.lines.isEmpty then [] else (f (.lines (b.lines.map (·.map l.resolve)))).toList) ++
      ((if b.variableRows.isEmpty then [] else (f (.variableRows (b.variableRows.map (·.map l.resolve)))).toList) ++
      ((if b.variableTypes.isEmpty then [] else (f (.variableTypes (b.variableTypes.map (·.map l.resolve)))).toList) ++
      ((if (Frame.sorted l.resolve (b.frames.getD [])).isEmpty then []
        else (f (.frames ((Frame.sorted l.resolve (b.frames.getD [])).map (·.map l.resolve)))).toList) ++
      b.attributes.filterMap fun a => f (.carried a)))) := by
  simp only [contents, List.filterMap_append, filterMap_tableContents, List.isEmpty_map, List.filterMap_map]
  rfl

theorem filterMap_none {β γ : Type} (as : List β) : as.filterMap (fun _ => (none : Option γ)) = [] :=
  List.filterMap_eq_nil_iff.mpr fun _ _ => rfl

theorem lines_listing (b : MethodBody) (l : Layout) : (b.listing l).lines = b.lines.map (·.map l.resolve) := by
  rw [Listing.lines, listing, flatMap_contents]
  cases b.lines <;> simp

theorem variableRows_listing (b : MethodBody) (l : Layout) :
    (b.listing l).variableRows = b.variableRows.map (·.map l.resolve) := by
  rw [Listing.variableRows, listing, filterMap_contents, filterMap_none]
  cases b.variableRows <;> simp [Listing.last]

theorem variableTypes_listing (b : MethodBody) (l : Layout) :
    (b.listing l).variableTypes = b.variableTypes.map (·.map l.resolve) := by
  rw [Listing.variableTypes, listing, filterMap_contents, filterMap_none]
  cases b.variableTypes <;> simp [Listing.last]

theorem frames_listing (b : MethodBody) (l : Layout) :
    (b.listing l).frames = if (Frame.sorted l.resolve (b.frames.getD [])).isEmpty then none else
      some ((Frame.sorted l.resolve (b.frames.getD [])).map (·.map l.resolve)) := by
  rw [Listing.frames, listing, filterMap_contents, filterMap_none]
  cases Frame.sorted l.resolve (b.frames.getD []) <;> simp

theorem carried_listing (b : MethodBody) (l : Layout) : (b.listing l).carried = b.attributes := by
  rw [Listing.carried, listing, filterMap_contents]
  simp

/-! ## What a listing mentions -/

theorem positions_tableContents {β : Type} (make : List β → BodyAttribute) (h : (make []).positions = [])
    (rows : List β) : (tableContents make rows).flatMap BodyAttribute.positions = (make rows).positions := by
  rw [flatMap_tableContents]
  cases rows with
  | nil => exact h.symm
  | cons r rest => rfl

/-- The offsets in the tables, those of the frames in the order in which they are written. -/
theorem positions_contents (b : MethodBody) (l : Layout) :
    (b.contents l).flatMap BodyAttribute.positions =
      (b.lines.map LineEntry.start ++ ((b.variableRows ++ b.variableTypes).flatMap VariableEntry.positions ++
        (Frame.sorted l.resolve (b.frames.getD [])).flatMap Frame.positions)).map l.resolve := by
  have hcarried : (b.attributes.map BodyAttribute.carried).flatMap BodyAttribute.positions = [] := by
    rw [List.flatMap_eq_nil_iff, List.forall_mem_map]
    exact fun _ _ => rfl
  simp only [contents, List.flatMap_append, hcarried, positions_tableContents BodyAttribute.lines rfl,
    positions_tableContents BodyAttribute.variableRows rfl, positions_tableContents BodyAttribute.variableTypes rfl,
    positions_tableContents BodyAttribute.frames rfl]
  simp [BodyAttribute.positions, LineEntry.map, Function.comp_def, List.flatMap_map, List.map_flatMap,
    VariableEntry.positions_map, Frame.positions_map]

/-- **A listing mentions the offsets of the labels that the body refers to.** -/
theorem mentions_listing (hl : l.Settled b.instructions xs) :
    (b.listing l).mentions.Perm (b.uses.map l.resolve) := by
  have hsteps : (Layout.listed l.resolve l.steps).flatMap (fun s => s.2.positions) =
      ((b.instructions.filter (·.mark?.isNone)).flatMap Instruction.positions).map l.resolve := by
    rw [← hl.map_realSteps, Layout.listed, List.flatMap_map, List.flatMap_map, List.map_flatMap]
    simp only [Instruction.positions_map]
  have hhandlers : (b.handlers.map (·.map l.resolve)).flatMap Handler.positions =
      (b.handlers.flatMap Handler.positions).map l.resolve := by
    simp only [List.flatMap_map, List.map_flatMap, Handler.positions_map]
  have hframes : (Frame.sorted l.resolve (b.frames.getD [])).Perm (b.frames.getD []) := List.mergeSort_perm _ _
  rw [Listing.mentions, listing, hsteps, hhandlers, positions_contents, uses, ← List.map_append,
    ← List.map_append]
  apply List.Perm.map
  refine .append_left _ (.append_left _ (.append_left _ (.append_left _ ?_)))
  exact hframes.flatMap_right _

/-! ## Other labels -/

/-- The number of instructions in front of a label. -/
def position? (b : MethodBody) (label : Label) : Option Nat :=
  Layout.positionFrom? label 0 b.instructions

/-- The instructions without the marks. -/
def unmarked (b : MethodBody) : List (Instruction Label) :=
  b.instructions.filter (·.mark?.isNone)

/-- The labels that are marked. -/
def marks (b : MethodBody) : List Label :=
  b.instructions.filterMap Instruction.mark?

/-- **The same body under other labels**: what refers to a label in one body refers to its name in the other, and
both are the same number of instructions from the start. Names merge exactly where labels stand at one place, and
every name is marked once. -/
structure Renames (name : Label → Label) (b b' : MethodBody) : Prop where
  maxStack : b'.maxStack = b.maxStack
  maxLocals : b'.maxLocals = b.maxLocals
  instructions : b'.unmarked = b.unmarked.map (·.map name)
  handlers : b'.handlers = b.handlers.map (·.map name)
  lines : b'.lines = b.lines.map (·.map name)
  variableRows : b'.variableRows = b.variableRows.map (·.map name)
  variableTypes : b'.variableTypes = b.variableTypes.map (·.map name)
  /-- The frames are put in the order of their positions, and there is no table without a frame. -/
  frames : ∃ ordered : List (Frame Label), ordered.Perm (b.frames.getD []) ∧
    ordered.Pairwise (fun f g => ∃ m n, b.position? f.position = some m ∧ b.position? g.position = some n ∧ m < n) ∧
    b'.frames = if ordered.isEmpty then none else some (ordered.map (·.map name))
  attributes : b'.attributes = b.attributes
  positions : ∀ label ∈ b.uses, ∃ n, b.position? label = some n ∧ b'.position? (name label) = some n
  merged : ∀ label ∈ b.uses, ∀ other ∈ b.uses, name label = name other ↔ b.position? label = b.position? other
  marked : ∀ label, label ∈ b'.marks ↔ ∃ used ∈ b.uses, name used = label
  once : b'.marks.Nodup
  /-- Labels that are handed out later are new. -/
  fresh : ∀ label ∈ b'.marks, label.id < b'.nextLabel

/-- The name of a label is the number of its offset. -/
def nameOf (b : MethodBody) (l : Layout) (label : Label) : Label :=
  Listing.labelOf (b.listing l).numbering (l.resolve label)

section

variable (hl : l.Settled b.instructions xs) (hfound : ∀ label ∈ b.uses, l.Found label)

include hl

theorem position?_eq {label : Label} (h : l.Found label) :
    b.position? label = some (Layout.countBefore l.steps (l.resolve label)) :=
  (hl.boundary_of_offsetOf h).2.2

theorem getElem?_nameOf {label : Label} (h : label ∈ b.uses) :
    (b.listing l).numbering[l.resolve label]? = some (b.nameOf l label) :=
  (b.listing l).numbers_numbering.getElem?_labelOf ((mentions_listing hl).mem_iff.mpr (List.mem_map_of_mem h))

/-- Offsets that are mentioned are those of labels. -/
theorem eq_nameOf {offset : Nat} {label : Label} (h : (b.listing l).numbering[offset]? = some label) :
    ∃ used ∈ b.uses, l.resolve used = offset ∧ b.nameOf l used = label := by
  have hmem : offset ∈ (b.listing l).numbering :=
    Std.TreeMap.mem_iff_isSome_getElem?.mpr (by rw [h]; rfl)
  rw [(b.listing l).numbers_numbering.mem, (mentions_listing hl).mem_iff] at hmem
  obtain ⟨used, hused, rfl⟩ := List.mem_map.mp hmem
  refine ⟨used, hused, rfl, ?_⟩
  rw [getElem?_nameOf hl hused] at h
  exact Option.some.inj h

include hfound

theorem position?_toBody {label : Label} (h : label ∈ b.uses) :
    (b.listing l).toBody.position? (b.nameOf l label) = some (Layout.countBefore l.steps (l.resolve label)) := by
  have hposition := (b.listing l).numbers_numbering.positionFrom?_marked Layout.mark?_of_mem_listed
    (hl.pairwise_listed l.resolve) (getElem?_nameOf hl h) 0
  have hboundary := (hl.boundary_of_offsetOf (hfound label h)).1
  rw [if_pos (Layout.mem_offsets_listed.mpr hboundary), Layout.countP_listed, Nat.zero_add] at hposition
  exact hposition

theorem nameOf_eq_iff {label other : Label} (h : label ∈ b.uses) (h' : other ∈ b.uses) :
    b.nameOf l label = b.nameOf l other ↔ b.position? label = b.position? other := by
  rw [position?_eq hl (hfound label h), position?_eq hl (hfound other h')]
  constructor
  · intro heq
    have hother := getElem?_nameOf hl h'
    rw [← heq] at hother
    rw [(b.listing l).numbers_numbering.injective _ _ _ (getElem?_nameOf hl h) hother]
  · intro heq
    -- two offsets with one position are equal, as neither is smaller
    have hcount := Option.some.inj heq
    have hlt := hl.offset_lt_iff (hfound label h) (hfound other h')
    have hgt := hl.offset_lt_iff (hfound other h') (hfound label h)
    have hoffset : l.resolve label = l.resolve other := by omega
    rw [nameOf, nameOf, hoffset]

theorem mem_marks_toBody (label : Label) :
    label ∈ (b.listing l).toBody.marks ↔ ∃ used ∈ b.uses, b.nameOf l used = label := by
  show label ∈ (Listing.marked (b.listing l).numbering (Layout.listed l.resolve l.steps) l.length).filterMap _ ↔ _
  rw [Listing.marks_marked _ Layout.mark?_of_mem_listed, List.mem_filterMap]
  constructor
  · -- only offsets that are mentioned have labels
    rintro ⟨offset, -, hoffset⟩
    obtain ⟨used, hused, -, hname⟩ := eq_nameOf hl hoffset
    exact ⟨used, hused, hname⟩
  · rintro ⟨used, hused, rfl⟩
    have hboundary := (hl.boundary_of_offsetOf (hfound used hused)).1
    exact ⟨l.resolve used, Layout.mem_offsets_listed.mpr hboundary, getElem?_nameOf hl hused⟩

omit hfound in
theorem unmarked_toBody : (b.listing l).toBody.unmarked = b.unmarked.map (·.map (b.nameOf l)) := by
  show (Listing.marked (b.listing l).numbering (Layout.listed l.resolve l.steps) l.length).filter _ = _
  rw [Listing.filter_marked _ Layout.mark?_of_mem_listed, Layout.listed, List.map_map, unmarked,
    ← hl.map_realSteps, List.map_map]
  exact List.map_congr_left fun s _ => Instruction.map_map _ _ s.instruction

/-- The frames in the order of their offsets are in the order of their positions. -/
theorem pairwise_sorted (hascending : Frame.Ascending 0
    ((Frame.sorted l.resolve (b.frames.getD [])).map (Frame.located l.resolve))) :
    (Frame.sorted l.resolve (b.frames.getD [])).Pairwise
      fun f g => ∃ m n, b.position? f.position = some m ∧ b.position? g.position = some n ∧ m < n := by
  have hposition : ∀ fr ∈ Frame.sorted l.resolve (b.frames.getD []), l.Found fr.position := by
    intro fr hfr
    exact hfound _ (mem_uses_of_frame (Frame.mem_sorted.mp hfr) fr.position_mem)
  have hpairwise := hascending.pairwise
  rw [List.pairwise_map] at hpairwise
  refine hpairwise.imp_of_mem ?_
  intro f g hf hg hlt
  have hf := hposition f hf
  have hg := hposition g hg
  exact ⟨_, _, position?_eq hl hf, position?_eq hl hg, (hl.offset_lt_iff hf hg).mp hlt⟩

/-- **A listing with labels for its offsets is the body that was listed**, under other labels. -/
theorem renames_toBody (hascending : Frame.Ascending 0
    ((Frame.sorted l.resolve (b.frames.getD [])).map (Frame.located l.resolve))) :
    b.Renames (b.nameOf l) (b.listing l).toBody where
  maxStack := rfl
  maxLocals := rfl
  instructions := unmarked_toBody hl
  handlers := List.map_map
  lines := by
    show (b.listing l).lines.map _ = _
    rw [lines_listing, List.map_map]
    rfl
  variableRows := by
    show (b.listing l).variableRows.map _ = _
    rw [variableRows_listing, List.map_map]
    rfl
  variableTypes := by
    show (b.listing l).variableTypes.map _ = _
    rw [variableTypes_listing, List.map_map]
    rfl
  frames := by
    refine ⟨Frame.sorted l.resolve (b.frames.getD []), List.mergeSort_perm _ _, pairwise_sorted hl hfound hascending, ?_⟩
    show (b.listing l).frames.map _ = _
    rw [frames_listing]
    split
    · rfl
    · rw [Option.map_some, List.map_map]
      exact congrArg some (List.map_congr_left fun fr _ => Frame.map_map _ _ fr)
  attributes := carried_listing b l
  positions label h := ⟨_, position?_eq hl (hfound label h), position?_toBody hl hfound h⟩
  merged label h other h' := nameOf_eq_iff hl hfound h h'
  marked := mem_marks_toBody hl hfound
  once := (b.listing l).numbers_numbering.nodup_marks Layout.mark?_of_mem_listed (hl.pairwise_listed l.resolve)
  fresh label h := by
    obtain ⟨used, hused, rfl⟩ := (mem_marks_toBody hl hfound label).mp h
    exact (b.listing l).numbers_numbering.lt _ _ (getElem?_nameOf hl hused)

end

/-- **Writing and reading a body** gives the same body under other labels. -/
theorem decode_encode (hwf : b.WellFormed p) (hp : p.count ≤ 65535) {payload : List UInt8}
    (h : b.encode p = (.ok payload, q)) :
    ∃ b' name, MethodBody.decode q payload = .ok b' ∧ b.Renames name b' := by
  obtain ⟨l, xs, hl, hfound, hascending, hlisting⟩ := decode_encode_listing hwf hp h
  have hstray : (b.listing l).stray? = none := by
    apply Listing.stray?_eq_none
    intro offset hoffset
    rw [(mentions_listing hl).mem_iff] at hoffset
    obtain ⟨label, hlabel, rfl⟩ := List.mem_map.mp hoffset
    have hmem := Layout.mem_offsets_listed (g := l.resolve).mpr (hl.boundary_of_offsetOf (hfound label hlabel)).1
    exact (List.mem_append.mp hmem).imp_right List.mem_singleton.mp
  refine ⟨(b.listing l).toBody, b.nameOf l, ?_, renames_toBody hl hfound hascending⟩
  rw [MethodBody.decode, hlisting]
  simp only [bind, Except.bind, hstray]
  rfl

/-! ## A body that counts down -/

/-- A loop around a switch, with two marks at one place and its frames in the opposite of their order. -/
def countdown : MethodBody where
  maxStack := 2
  maxLocals := 2
  instructions := [.mark ⟨3⟩, .localVar Opcode.iload 1, .tableSwitch ⟨5⟩ 0 1 [⟨3⟩, ⟨4⟩], .mark ⟨4⟩, .mark ⟨7⟩,
    .increment 1 (-1), .jump Opcode.goto ⟨3⟩, .mark ⟨5⟩, .simple Opcode.voidReturn, .mark ⟨6⟩]
  handlers := [⟨⟨3⟩, ⟨5⟩, ⟨5⟩, 0⟩]
  lines := [⟨⟨3⟩, 10⟩, ⟨⟨7⟩, 11⟩]
  variableRows := [⟨⟨3⟩, ⟨6⟩, 1, 1, 1⟩]
  variableTypes := []
  frames := some [⟨⟨5⟩, .chop 1⟩, ⟨⟨7⟩, .same⟩]
  attributes := [⟨1, [1, 2]⟩]
  nextLabel := 8

/-- Where the instructions of `countdown` are. -/
def countdownLayout : Layout :=
  .of countdown.instructions (List.replicate 10 false)

/-- The payload of `countdown`. -/
def countdownBytes : List UInt8 :=
  [0, 2, 0, 2, 0, 0, 0, 31, 27, 170, 0, 0, 0, 0, 0, 29, 0, 0, 0, 0, 0, 0, 0, 1, 255, 255, 255, 255, 0, 0, 0, 23, 132, 1,
    255, 167, 255, 229, 177, 0, 1, 0, 0, 0, 30, 0, 30, 0, 0, 0, 4, 0, 2, 0, 0, 0, 10, 0, 2, 0, 0, 0, 10, 0, 24, 0, 11, 0,
    3, 0, 0, 0, 12, 0, 1, 0, 0, 0, 31, 0, 1, 0, 1, 0, 1, 0, 4, 0, 0, 0, 6, 0, 2, 24, 250, 0, 5, 0, 1, 0, 0, 0, 2, 1, 2]

/-- A pool with the given texts only. -/
def texts (ts : List String) : ConstantPool :=
  ⟨(.unusable :: ts.map fun t => .utf8 (.ofText t)).toArray⟩

/-- A text that is not there yet is appended. -/
theorem addUtf8_texts {t : String} {ts : List String} (ht : t ∉ ts) (hlen : ts.length < 65534) :
    ConstantPool.addUtf8 t (texts ts) = (.ok (UInt16.ofNat (ts.length + 1)), texts (ts ++ [t])) := by
  have hnew : Constant.utf8 (.ofText t) ∉ (texts ts).slots.toList := by
    intro h
    rcases List.mem_cons.mp h with h | h
    · cases h
    · obtain ⟨u, hu, heq⟩ := List.mem_map.mp h
      cases congrArg Utf8Constant.text (Constant.utf8.inj heq)
      exact ht hu
  have hcount : (texts ts).count = ts.length + 1 := by
    simp [texts, ConstantPool.count]
  rw [ConstantPool.addUtf8, ConstantPool.add_of_notMem hnew rfl hcount (by omega)]
  simp [texts]

/-- A text that is there is found. -/
theorem addUtf8_texts_again {t : String} {ts us : List String} (ht : t ∉ ts) (hlen : ts.length < 65534) :
    ConstantPool.addUtf8 t (texts (ts ++ t :: us)) = (.ok (UInt16.ofNat (ts.length + 1)), texts (ts ++ t :: us)) :=
  ConstantPool.add_again (addUtf8_texts ht hlen) ⟨us.map fun u => .utf8 (.ofText u), by simp [texts]⟩

theorem tableAttribute_texts {α : Type} {name : String} {row : α → Except Defect (List UInt8)} {rows : List α}
    {ts : List String} {bytes : List UInt8} (hrows : rows.isEmpty = false)
    (hbytes : Layout.rowBytes row rows = .ok bytes) (hname : name ∉ ts) (hlen : ts.length < 65534) :
    tableAttribute name row rows (texts ts) =
      (.ok [⟨UInt16.ofNat (ts.length + 1), Bytes.count16 rows.length ++ bytes⟩], texts (ts ++ [name])) := by
  rw [tableAttribute, hrows]
  exact Addition.lift_bind_eq_ok.mpr ⟨bytes, hbytes,
    Addition.bind_eq_ok.mpr ⟨_, _, addUtf8_texts hname hlen, rfl⟩⟩

theorem encodeTable_countdown :
    Frame.encodeTable countdownLayout.offsetOf (countdown.frames.getD []) = .ok [0, 2, 24, 250, 0, 5] := by
  have hsorted : Frame.sorted countdownLayout.resolve (countdown.frames.getD []) = [⟨⟨7⟩, .same⟩, ⟨⟨5⟩, .chop 1⟩] := by
    have hfirst : countdownLayout.resolve ⟨7⟩ = 24 := rfl
    have hsecond : countdownLayout.resolve ⟨5⟩ = 30 := rfl
    simp [Frame.sorted, countdown, List.mergeSort, hfirst, hsecond]
  refine (Frame.encodeTable_eq_ok countdownLayout.totals_resolve).mpr ⟨?_, ?_, ?_⟩
  · simp [countdown, Frame.positions, FrameKind.positions]
    exact ⟨rfl, rfl⟩
  · rw [hsorted]
    exact ⟨Nat.zero_le _, Nat.le_add_right 25 5, trivial⟩
  · rw [hsorted]
    rfl

theorem encode_countdown : countdown.encode (texts ["Note"]) =
    (.ok countdownBytes, texts ["Note", "LineNumberTable", "LocalVariableTable", "StackMapTable"]) := by
  have hframes : frameAttribute countdownLayout (countdown.frames.getD [])
      (texts ["Note", "LineNumberTable", "LocalVariableTable"]) =
        (.ok [⟨4, [0, 2, 24, 250, 0, 5]⟩],
          texts ["Note", "LineNumberTable", "LocalVariableTable", "StackMapTable"]) := by
    rw [frameAttribute, encodeTable_countdown]
    exact Addition.lift_bind_eq_ok.mpr ⟨_, rfl, Addition.bind_eq_ok.mpr ⟨_, _,
      addUtf8_texts (by simp) (by decide), rfl⟩⟩
  have hattributes : countdown.encodeAttributes countdownLayout (texts ["Note"]) =
      (.ok [⟨2, [0, 2, 0, 0, 0, 10, 0, 24, 0, 11]⟩, ⟨3, [0, 1, 0, 0, 0, 31, 0, 1, 0, 1, 0, 1]⟩,
        ⟨4, [0, 2, 24, 250, 0, 5]⟩, ⟨1, [1, 2]⟩],
        texts ["Note", "LineNumberTable", "LocalVariableTable", "StackMapTable"]) :=
    Addition.bind_eq_ok.mpr ⟨_, _, tableAttribute_texts rfl rfl (by simp) (by decide),
      Addition.bind_eq_ok.mpr ⟨_, _, tableAttribute_texts rfl rfl (by simp) (by decide),
        Addition.bind_eq_ok.mpr ⟨_, _, rfl, Addition.bind_eq_ok.mpr ⟨_, _, hframes, rfl⟩⟩⟩⟩
  refine Addition.lift_bind_eq_ok.mpr ⟨countdownLayout, rfl, ?_⟩
  rw [if_neg (by decide)]
  exact Addition.lift_bind_eq_ok.mpr ⟨_, rfl, Addition.lift_bind_eq_ok.mpr ⟨_, rfl,
    Addition.bind_eq_ok.mpr ⟨_, _, hattributes, rfl⟩⟩⟩

theorem wellFormed_countdown : countdown.WellFormed (texts ["Note"]) where
  instructions := by
    simp [countdown, Instruction.Shaped]
    decide
  size l hl := by
    cases hl
    decide
  frames := by simp [countdown, FrameKind.Shaped]
  ranges l hl v hv start stop hstart hstop := by
    cases hl
    obtain rfl : v = ⟨⟨3⟩, ⟨6⟩, 1, 1, 1⟩ := by simpa [countdown] using hv
    cases (show Except.ok 0 = .ok start from hstart)
    exact Nat.zero_le stop
  handlersCount := by decide
  linesCount := by decide
  variableRowsCount := by decide
  variableTypesCount := by decide
  framesCount := by decide
  attributesCount := by decide
  attributes := by simp [countdown, Attribute.Writable]
  frameTable l hl bytes hbytes := by
    cases hl
    cases encodeTable_countdown.symm.trans hbytes
    decide
  names := by
    simp [countdown]
    exact ⟨"Note", rfl, by decide⟩

theorem decode_encode_countdown :
    countdown.WellFormed (texts ["Note"]) ∧ (texts ["Note"]).count ≤ 65535 ∧
      countdown.encode (texts ["Note"]) =
        (.ok countdownBytes, texts ["Note", "LineNumberTable", "LocalVariableTable", "StackMapTable"]) ∧
      ∃ b' name, MethodBody.decode (texts ["Note", "LineNumberTable", "LocalVariableTable", "StackMapTable"])
        countdownBytes = .ok b' ∧ countdown.Renames name b' := by
  have hcount : (texts ["Note"]).count ≤ 65535 := by decide
  exact ⟨wellFormed_countdown, hcount, encode_countdown, decode_encode wellFormed_countdown hcount encode_countdown⟩

end ClassWeaver.MethodBody
