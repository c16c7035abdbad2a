import ClassWeaver.Proofs.ClassFile.WithinLimits
import ClassWeaver.Proofs.Code.Guarantees
import ClassWeaver.Proofs.Code.Offsets
import ClassWeaver.Proofs.Code.RoundTrip

/-!
# Bodies that were read

A payload that is accepted gives a body that can be written: its instructions, its frames and its tables are within
the limits of the format, no range ends in front of its start, and every label that the body refers to is placed.

## Contents

* `BodyAttribute.Accepted`, `Listing.Accepted`, `accepted_of_decode` — what is known of a listing that was read.
* `Listing.number`, `position?_labelOf` — where the labels of its body are.
* `uses_toBody`, `position?_of_mem_uses` — its labels stand for offsets that are mentioned, and are placed.
* `length_contents_le` — it has no more attributes than were read.
* `legible_toBody` — the body can be written and read back.
-/

namespace ClassWeaver

open Bytes
open Decoder (ensures_true ensures_counted)

/-! ## Attributes -/

/-- The frames of a table stand one behind the other, from the first offset on. -/
theorem Frame.place_ascending (next : Nat) (rows : List (Nat × FrameKind Nat)) :
    (∀ fr ∈ place next rows, next ≤ fr.position) ∧
      (place next rows).Pairwise (fun f g => f.position < g.position) := by
  induction rows generalizing next with
  | nil => exact ⟨nofun, .nil⟩
  | cons row rest ih =>
    obtain ⟨hle, hpairwise⟩ := ih (next + row.1 + 1)
    rw [place]
    have hfirst : ∀ fr ∈ place (next + row.1 + 1) rest, next ≤ fr.position := by
      intro fr hfr
      have := hle fr hfr
      omega
    exact ⟨List.forall_mem_cons.mpr ⟨Nat.le_add_right _ _, hfirst⟩, .cons hle hpairwise⟩

theorem Frame.map_kind_place (next : Nat) (rows : List (Nat × FrameKind Nat)) :
    (place next rows).map Frame.kind = rows.map Prod.snd := by
  induction rows generalizing next with
  | nil => rfl
  | cons row rest ih => rw [place, List.map_cons, List.map_cons, ih]

namespace BodyAttribute

/-- What is known of an attribute that was read. -/
def Accepted (pool : ConstantPool) : BodyAttribute → Prop
  | lines _ | dropped => True
  | variableRows rows | variableTypes rows => rows.length ≤ 65535 ∧ ∀ v ∈ rows, v.start ≤ v.stop
  | frames table =>
    table.length ≤ 65535 ∧ table.Pairwise (fun f g => f.position < g.position) ∧ ∀ fr ∈ table, fr.kind.Shaped
  | carried a => a.Writable ∧ ∃ name, pool.utf8 a.nameIndex = .ok name ∧ name ∉ MethodBody.interpretedNames

/-- A number for each kind of attribute. -/
def kind : BodyAttribute → Nat
  | lines _ => 0
  | variableRows _ => 1
  | variableTypes _ => 2
  | frames _ => 3
  | carried _ => 4
  | dropped => 5

theorem ensures_variable : Decoder.Ensures decodeVariable fun v => v.start ≤ v.stop :=
  (ensures_true _).bind fun _ _ => (ensures_true _).bind fun _ _ => (ensures_true _).bind fun _ _ =>
    (ensures_true _).bind fun _ _ => (ensures_true _).bind_pure fun _ _ => Nat.le_add_right _ _

theorem accepted_of_decodeNamed {pool : ConstantPool} {name : String} {a : Attribute} {c : BodyAttribute}
    (hname : pool.utf8 a.nameIndex = .ok name) (ha : a.Writable) (h : decodeNamed name a = .ok c) : c.Accepted pool := by
  unfold decodeNamed at h
  split at h
  · obtain ⟨rows, -, rfl⟩ := except_map_eq_ok.mp h
    trivial
  · obtain ⟨rows, hrows, rfl⟩ := except_map_eq_ok.mp h
    exact (ensures_counted ensures_variable).parse hrows
  · obtain ⟨rows, hrows, rfl⟩ := except_map_eq_ok.mp h
    exact (ensures_counted ensures_variable).parse hrows
  · obtain ⟨rows, hrows, rfl⟩ := except_map_eq_ok.mp h
    obtain ⟨hcount, hshaped⟩ := (ensures_counted ensures_kind).parse hrows
    have hkinds := Frame.map_kind_place 0 rows
    refine ⟨?_, (Frame.place_ascending 0 rows).2, ?_⟩
    · have := congrArg List.length hkinds
      rw [List.length_map, List.length_map] at this
      rwa [this]
    · intro fr hfr
      have hmem := List.mem_map_of_mem (f := Frame.kind) hfr
      rw [hkinds] at hmem
      obtain ⟨row, hrow, hkind⟩ := List.mem_map.mp hmem
      rw [← hkind]
      exact hshaped row hrow
  · cases h
    trivial
  · cases h
    trivial
  · cases h
    refine ⟨ha, name, hname, ?_⟩
    simp only [MethodBody.interpretedNames, List.mem_cons, List.not_mem_nil, or_false, not_or]
    refine ⟨?_, ?_, ?_, ?_, ?_, ?_⟩ <;> assumption

theorem accepted_of_decode {pool : ConstantPool} {length : Nat} {a : Attribute} {c : BodyAttribute} (ha : a.Writable)
    (h : decode pool length a = .ok c) : c.Accepted pool := by
  obtain ⟨name, hname, h⟩ := except_bind_eq_ok.mp h
  obtain ⟨content, hcontent, h⟩ := except_bind_eq_ok.mp h
  obtain ⟨-, -, h⟩ := except_bind_eq_ok.mp h
  cases h
  exact accepted_of_decodeNamed hname ha hcontent

end BodyAttribute

/-! ## Listings -/

theorem ensures_rawBody : Decoder.Ensures RawBody.decode fun raw =>
    raw.handlers.length ≤ 65535 ∧ raw.attributes.length ≤ 65535 ∧ ∀ a ∈ raw.attributes, a.Writable :=
  (ensures_true _).bind fun _ _ => (ensures_true _).bind fun _ _ => (ensures_true _).bind fun _ _ =>
    (ensures_counted (ensures_true _)).bind fun _ hhandlers => (ensures_counted ensures_attribute).bind_pure
      fun _ hattributes => ⟨hhandlers.1, hattributes⟩

namespace Listing

/-- What is known of a listing that was read. -/
structure Accepted (pool : ConstantPool) (l : Listing) : Prop where
  instructions : ∀ s ∈ l.steps, s.2.Proper
  sorted : (l.steps.map Prod.fst ++ [l.length]).Pairwise (· < ·)
  handlers : l.handlers.length ≤ 65535
  count : l.attributes.length ≤ 65535
  attributes : ∀ c ∈ l.attributes, c.Accepted pool

/-- **A listing that was read** is within the limits of the format. -/
theorem accepted_of_decode {pool : ConstantPool} {info : List UInt8} {l : Listing} (h : decode pool info = .ok l) :
    l.Accepted pool := by
  obtain ⟨raw, hraw, h⟩ := except_bind_eq_ok.mp h
  obtain ⟨steps, hsteps, h⟩ := except_bind_eq_ok.mp h
  obtain ⟨-, -, h⟩ := except_bind_eq_ok.mp h
  obtain ⟨attributes, hattributes, h⟩ := except_bind_eq_ok.mp h
  cases h
  obtain ⟨hhandlers, hcount, hwritable⟩ := ensures_rawBody.parse hraw
  obtain ⟨hproper, hsorted⟩ := decodeSteps_eq_ok hsteps
  obtain ⟨hdecoded, rfl⟩ := (totals_getD (BodyAttribute.decode pool raw.code.length) .dropped).mapM_eq_ok.mp hattributes
  refine ⟨hproper, hsorted, hhandlers, by rwa [List.length_map], ?_⟩
  rw [List.forall_mem_map]
  exact fun a ha => BodyAttribute.accepted_of_decode (hwritable a ha) (hdecoded a ha)

/-- The number of instructions in front of an offset. -/
def number (l : Listing) (offset : Nat) : Nat :=
  l.steps.countP (·.1 < offset)

variable {pool : ConstantPool} {l : Listing}

/-- Every mention is a boundary if none is stray. -/
theorem mem_boundaries_of_stray? (h : l.stray? = none) {o : Nat} (ho : o ∈ l.mentions) :
    o ∈ l.steps.map Prod.fst ++ [l.length] := by
  have hkey : o ∈ l.numbering.keys := Std.TreeMap.mem_keys.mpr ((l.numbers_numbering.mem o).mpr ho)
  rw [stray?, List.find?_eq_none] at h
  have hboundary := h o hkey
  rw [Bool.not_eq_true, Bool.not_eq_false', Std.TreeSet.contains_iff_mem, mem_boundaries] at hboundary
  exact List.mem_append.mpr (hboundary.imp_right List.mem_singleton.mpr)

/-- Later offsets have more instructions in front of them. -/
theorem number_le (l : Listing) {o o' : Nat} (h : o ≤ o') : l.number o ≤ l.number o' :=
  List.countP_mono_left fun _ _ hlt => decide_eq_true (Nat.lt_of_lt_of_le (of_decide_eq_true hlt) h)

/-- An instruction is in front of every later offset. -/
theorem number_lt {o o' : Nat} (ho : o ∈ l.steps.map Prod.fst) (h : o < o') : l.number o < l.number o' := by
  obtain ⟨s, hs, rfl⟩ := List.mem_map.mp ho
  exact Layout.countP_lt_countP hs h

/-- **Where the label of an offset is** in the body: in front of the instruction at the offset. -/
theorem position?_labelOf (hl : l.Accepted pool) (hstray : l.stray? = none) {o : Nat} (ho : o ∈ l.mentions) :
    l.toBody.position? (labelOf l.numbering o) = some (l.number o) := by
  have hposition := l.numbers_numbering.positionFrom?_marked (fun s hs => (hl.instructions s hs).1) hl.sorted
    (l.numbers_numbering.getElem?_labelOf ho) 0
  rw [if_pos (mem_boundaries_of_stray? hstray ho), Nat.zero_add] at hposition
  exact hposition

/-! ## What the body refers to -/

/-- The last of the tables of one kind is among the attributes, unless it has no rows. -/
theorem last_mem {α : Type} {f : BodyAttribute → Option (List α)} {make : List α → BodyAttribute}
    (hf : ∀ c rows, f c = some rows → c = make rows) (attributes : List BodyAttribute) :
    last (attributes.filterMap f) = [] ∨ make (last (attributes.filterMap f)) ∈ attributes := by
  rw [last]
  cases h : (attributes.filterMap f).getLast? with
  | none => exact .inl rfl
  | some rows =>
    obtain ⟨c, hc, hrows⟩ := List.mem_filterMap.mp (List.mem_of_getLast? h)
    rw [hf c rows hrows] at hc
    exact .inr hc

theorem variableRows_mem (l : Listing) : l.variableRows = [] ∨ .variableRows l.variableRows ∈ l.attributes :=
  last_mem (fun c rows h => by cases c <;> cases h; rfl) l.attributes

theorem variableTypes_mem (l : Listing) : l.variableTypes = [] ∨ .variableTypes l.variableTypes ∈ l.attributes :=
  last_mem (fun c rows h => by cases c <;> cases h; rfl) l.attributes

theorem frames_mem {table : List (Frame Nat)} (h : l.frames = some table) : .frames table ∈ l.attributes := by
  obtain ⟨c, hc, htable⟩ := List.mem_filterMap.mp (List.mem_of_getLast? h)
  cases c <;> cases htable
  exact hc

/-- The offsets that the body refers to. -/
def used (l : Listing) : List Nat :=
  l.steps.flatMap (fun s => s.2.positions) ++ (l.handlers.flatMap Handler.positions ++ (l.lines.map LineEntry.start ++
    ((l.variableRows ++ l.variableTypes).flatMap VariableEntry.positions ++ (l.frames.getD []).flatMap Frame.positions)))

theorem mem_used_of_line {e : LineEntry Nat} (he : e ∈ l.lines) : e.start ∈ l.used := by
  simp only [used, List.mem_append, List.mem_map_of_mem he, true_or, or_true]

theorem mem_used_of_variable {v : VariableEntry Nat} (hv : v ∈ l.variableRows ++ l.variableTypes) {o : Nat}
    (h : o ∈ v.positions) : o ∈ l.used := by
  have hmem := List.mem_flatMap.mpr ⟨v, hv, h⟩
  simp only [used, List.mem_append, hmem, true_or, or_true]

theorem mem_used_of_frame {fr : Frame Nat} (hfr : fr ∈ l.frames.getD []) {o : Nat} (h : o ∈ fr.positions) :
    o ∈ l.used := by
  have hmem := List.mem_flatMap.mpr ⟨fr, hfr, h⟩
  simp only [used, List.mem_append, hmem, or_true]

theorem mem_mentions_of_mem_used {o : Nat} (h : o ∈ l.used) : o ∈ l.mentions := by
  have hattribute : ∀ c ∈ l.attributes, o ∈ c.positions → o ∈ l.mentions := fun c hc ho =>
    List.mem_append_right _ (List.mem_append_right _ (List.mem_flatMap.mpr ⟨c, hc, ho⟩))
  simp only [used, List.mem_append, List.flatMap_append] at h
  rcases h with h | h | h | (h | h) | h
  · exact List.mem_append_left _ h
  · exact List.mem_append_right _ (List.mem_append_left _ h)
  · obtain ⟨e, he, rfl⟩ := List.mem_map.mp h
    obtain ⟨c, hc, he⟩ := List.mem_flatMap.mp he
    cases c with
    | lines rows => exact hattribute _ hc (List.mem_map_of_mem he)
    | _ => cases he
  · rcases l.variableRows_mem with hnone | hmem
    · rw [hnone] at h
      cases h
    · exact hattribute _ hmem h
  · rcases l.variableTypes_mem with hnone | hmem
    · rw [hnone] at h
      cases h
    · exact hattribute _ hmem h
  · cases hframes : l.frames with
    | none =>
      rw [hframes] at h
      cases h
    | some table =>
      rw [hframes] at h
      exact hattribute _ (frames_mem hframes) h

theorem frames_toBody (l : Listing) :
    l.toBody.frames.getD [] = (l.frames.getD []).map (·.map (labelOf l.numbering)) := by
  show (l.frames.map (·.map (·.map (labelOf l.numbering)))).getD [] = _
  cases l.frames <;> rfl

theorem unmarked_toBody (hl : l.Accepted pool) :
    l.toBody.unmarked = l.steps.map fun s => s.2.map (labelOf l.numbering) :=
  filter_marked _ (fun s hs => (hl.instructions s hs).1) l.length

/-- **The labels that the body refers to** stand for these offsets. -/
theorem uses_toBody (hl : l.Accepted pool) : l.toBody.uses = l.used.map (labelOf l.numbering) := by
  have hinstructions : l.toBody.unmarked.flatMap Instruction.positions =
      (l.steps.flatMap fun s => s.2.positions).map (labelOf l.numbering) := by
    rw [unmarked_toBody hl, List.flatMap_map, List.map_flatMap]
    simp only [Instruction.positions_map]
  have hframes : (l.toBody.frames.getD []).flatMap Frame.positions =
      ((l.frames.getD []).flatMap Frame.positions).map (labelOf l.numbering) := by
    rw [frames_toBody, List.flatMap_map, List.map_flatMap]
    simp only [Frame.positions_map]
  rw [MethodBody.uses, used]
  show l.toBody.unmarked.flatMap Instruction.positions ++ _ = _
  rw [hinstructions, hframes]
  simp only [toBody, List.map_append, List.flatMap_append, List.flatMap_map, List.map_flatMap, List.map_map,
    Handler.positions_map, VariableEntry.positions_map]
  rfl

/-- **Every label of the body is placed.** -/
theorem position?_of_mem_uses (hl : l.Accepted pool) (hstray : l.stray? = none) {label : Label}
    (h : label ∈ l.toBody.uses) : ∃ n, l.toBody.position? label = some n := by
  rw [uses_toBody hl] at h
  obtain ⟨o, ho, rfl⟩ := List.mem_map.mp h
  exact ⟨_, position?_labelOf hl hstray (mem_mentions_of_mem_used ho)⟩

/-! ## Writing the body -/

/-- Every instruction of the body can be written. -/
theorem shaped_toBody (hl : l.Accepted pool) : ∀ i ∈ l.toBody.instructions, i.Shaped := by
  intro i hi
  cases hmark : i.mark? with
  | some label =>
    rw [Instruction.mark?_eq_some_iff.mp hmark]
    trivial
  | none =>
    have hmem : i ∈ l.toBody.unmarked := List.mem_filter.mpr ⟨hi, Option.isNone_iff_eq_none.mpr hmark⟩
    rw [unmarked_toBody hl] at hmem
    obtain ⟨s, hs, rfl⟩ := List.mem_map.mp hmem
    exact (Instruction.shaped_map _ _).mpr (hl.instructions s hs).2

theorem frames_accepted (hl : l.Accepted pool) :
    (BodyAttribute.frames (l.frames.getD [])).Accepted pool := by
  cases hframes : l.frames with
  | none => exact ⟨Nat.zero_le _, .nil, nofun⟩
  | some table => exact hl.attributes _ (frames_mem hframes)

theorem variableRows_accepted (hl : l.Accepted pool) : (BodyAttribute.variableRows l.variableRows).Accepted pool := by
  rcases l.variableRows_mem with hnone | hmem
  · rw [hnone]
    exact ⟨Nat.zero_le _, nofun⟩
  · exact hl.attributes _ hmem

theorem variableTypes_accepted (hl : l.Accepted pool) : (BodyAttribute.variableTypes l.variableTypes).Accepted pool := by
  rcases l.variableTypes_mem with hnone | hmem
  · rw [hnone]
    exact ⟨Nat.zero_le _, nofun⟩
  · exact hl.attributes _ hmem

/-- No range of the body ends in front of its start, wherever its instructions are. -/
theorem start_le_stop (hl : l.Accepted pool) (hstray : l.stray? = none) {layout : Layout}
    (hlayout : l.toBody.layout = .ok layout) (hspan : layout.span < 4294967296) {v : VariableEntry Label}
    (hv : v ∈ l.toBody.variableRows ++ l.toBody.variableTypes) {start stop : Nat}
    (hstart : layout.offsetOf v.start = .ok start) (hstop : layout.offsetOf v.stop = .ok stop) : start ≤ stop := by
  obtain ⟨xs, hsettled⟩ := Layout.layout_settled hlayout hspan
  obtain ⟨r, hr, rfl⟩ : ∃ r ∈ l.variableRows ++ l.variableTypes, r.map (labelOf l.numbering) = v := by
    rw [toBody, ← List.map_append] at hv
    exact List.mem_map.mp hv
  have hrange : r.start ≤ r.stop := by
    rcases List.mem_append.mp hr with h | h
    · exact (variableRows_accepted hl).2 r h
    · exact (variableTypes_accepted hl).2 r h
  have hmention : ∀ o ∈ r.positions, o ∈ l.mentions :=
    fun o ho => mem_mentions_of_mem_used (mem_used_of_variable hr ho)
  have hposition : ∀ o ∈ r.positions, Layout.positionFrom? (labelOf l.numbering o) 0 l.toBody.instructions =
      some (l.number o) := fun o ho => position?_labelOf hl hstray (hmention o ho)
  simp only [VariableEntry.positions, List.forall_mem_cons] at hposition
  rw [hsettled.offsetOf_eq, VariableEntry.map, hposition.1] at hstart
  rw [hsettled.offsetOf_eq, VariableEntry.map, hposition.2.1] at hstop
  cases hstart
  cases hstop
  exact Layout.startOf_le xs (l.number_le hrange)

theorem carried_mem {a : Attribute} (h : a ∈ l.carried) : .carried a ∈ l.attributes := by
  obtain ⟨c, hc, ha⟩ := List.mem_filterMap.mp h
  cases c <;> cases ha
  exact hc

/-- Things of different kinds are different things. -/
theorem count_kinds_le (kinds : List Nat) :
    kinds.count 0 + (kinds.count 1 + (kinds.count 2 + (kinds.count 3 + kinds.count 4))) ≤ kinds.length := by
  induction kinds with
  | nil => exact Nat.le_refl 0
  | cons k rest ih =>
    rw [List.length_cons]
    rcases k with _ | _ | _ | _ | _ | k <;> simp <;> omega

/-- A table that is written was read from an attribute of its kind. -/
theorem length_tableContents_le_count {α β : Type} (make : List β → BodyAttribute) (rows : List α) (f : α → β)
    {k : Nat} {attributes : List BodyAttribute} (h : rows = [] ∨ ∃ c ∈ attributes, c.kind = k) :
    (tableContents make (rows.map f)).length ≤ (attributes.map BodyAttribute.kind).count k := by
  rcases h with rfl | ⟨c, hc, rfl⟩
  · exact Nat.zero_le _
  · have hone : 0 < (attributes.map BodyAttribute.kind).count c.kind := List.count_pos_iff.mpr (List.mem_map_of_mem hc)
    exact Nat.le_trans (MethodBody.length_tableContents_le make _) hone

theorem lines_mem (l : Listing) : l.lines = [] ∨ ∃ c ∈ l.attributes, c.kind = 0 := by
  by_cases hnil : l.lines = []
  · exact .inl hnil
  · obtain ⟨e, he⟩ := List.exists_mem_of_ne_nil _ hnil
    obtain ⟨c, hc, he⟩ := List.mem_flatMap.mp he
    cases c with
    | lines rows => exact .inr ⟨_, hc, rfl⟩
    | _ => cases he

/-- **The body has no more attributes** than were read. -/
theorem length_contents_le (l : Listing) (layout : Layout) :
    (l.toBody.contents layout).length ≤ l.attributes.length := by
  have hframes : Frame.sorted layout.resolve (l.toBody.frames.getD []) = [] ∨ ∃ c ∈ l.attributes, c.kind = 3 := by
    cases htable : l.frames with
    | none =>
      rw [← List.length_eq_zero_iff, Frame.length_sorted, frames_toBody, htable]
      exact .inl rfl
    | some table => exact .inr ⟨_, frames_mem htable, rfl⟩
  have hcarried : l.carried.length = (l.attributes.map BodyAttribute.kind).count 4 := by
    rw [carried, List.length_filterMap_eq_countP, List.count, List.countP_map]
    exact List.countP_congr fun c _ => by cases c <;> rfl
  -- one attribute for each kind that is there
  have h₀ := length_tableContents_le_count .lines l.toBody.lines (·.map layout.resolve)
    (l.lines_mem.imp_left (congrArg (List.map _)))
  have h₁ := length_tableContents_le_count (k := 1) .variableRows l.toBody.variableRows (·.map layout.resolve)
    (l.variableRows_mem.imp (congrArg (List.map _)) fun h => ⟨_, h, rfl⟩)
  have h₂ := length_tableContents_le_count (k := 2) .variableTypes l.toBody.variableTypes (·.map layout.resolve)
    (l.variableTypes_mem.imp (congrArg (List.map _)) fun h => ⟨_, h, rfl⟩)
  have h₃ := length_tableContents_le_count .frames _ (·.map layout.resolve) hframes
  have hkinds := count_kinds_le (l.attributes.map BodyAttribute.kind)
  rw [List.length_map] at hkinds
  simp only [MethodBody.contents, List.length_append, List.length_map (f := BodyAttribute.carried)]
  show _ + (_ + (_ + (_ + l.carried.length))) ≤ _
  omega

/-- **The body of an accepted payload can be written and read back**, if the length of its code can be counted in 32
bits, it has no more lines than a table can have and its frames fit into an attribute. -/
theorem legible_toBody (hl : l.Accepted pool) (hstray : l.stray? = none)
    (hsize : ∀ layout, l.toBody.layout = .ok layout → layout.span < 4294967296)
    (hlines : l.toBody.lines.length ≤ 65535)
    (hframes : ∀ layout, l.toBody.layout = .ok layout → ∀ bytes,
      Frame.encodeTable layout.offsetOf (l.toBody.frames.getD []) = .ok bytes → bytes.length < 4294967296) :
    l.toBody.Legible pool where
  tables :=
    { instructions := shaped_toBody hl
      size := hsize
      frames := by
        show ∀ fr ∈ l.toBody.frames.getD [], fr.kind.Shaped
        rw [frames_toBody, List.forall_mem_map]
        exact fun fr hfr => (FrameKind.shaped_map _ _).mpr ((frames_accepted hl).2.2 fr hfr)
      ranges := fun layout hlayout v hv start stop hstart hstop =>
        start_le_stop hl hstray hlayout (hsize layout hlayout) hv hstart hstop
      handlersCount := by
        show (l.handlers.map _).length ≤ 65535
        rw [List.length_map]
        exact hl.handlers
      linesCount := hlines
      variableRowsCount := by
        show (l.variableRows.map _).length ≤ 65535
        rw [List.length_map]
        exact (variableRows_accepted hl).1
      variableTypesCount := by
        show (l.variableTypes.map _).length ≤ 65535
        rw [List.length_map]
        exact (variableTypes_accepted hl).1
      framesCount := by
        show (l.toBody.frames.getD []).length ≤ 65535
        rw [frames_toBody, List.length_map]
        exact (frames_accepted hl).1
      attributesCount := Nat.zero_le _
      attributes := nofun
      frameTable := hframes
      names := nofun }
  attributes a ha := (hl.attributes _ (carried_mem ha)).1
  names a ha := (hl.attributes _ (carried_mem ha)).2
  count layout := Nat.le_trans (length_contents_le l layout) hl.count

end Listing

end ClassWeaver
