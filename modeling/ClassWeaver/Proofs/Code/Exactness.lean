import ClassWeaver.Proofs.Code.RoundTrip
import ClassWeaver.Proofs.Code.Rounds

/-!
# Exactness

Offsets and distances are cut to two or four bytes when a body is written, and nothing is lost by that: the code is
no longer than an offset of two bytes can tell, a short jump is one that reaches, and every gap between frames is
smaller than an offset. So what the bytes stand for can be stated over numbers, without a word on how they were cut,
and it holds of every payload that was written, whatever the body was.

## Contents

* `IsOffset`, `IsDistance` — a number that is written for a label.
* `Aims`, `Emits` — the bytes of an instruction: as many as its size, with exact distances.
* `HandlerExact`, `LineExact`, `VariableExact`, `TypeExact`, `KindExact`, `FramesExact` — rows with exact offsets.
* `Parts`, `Parts.Exact` — a payload in parts, and what each of them stands for.
* `encode_exact` — every payload that is written consists of such parts.
-/

namespace ClassWeaver

open Bytes

namespace Layout

variable {is : List (Instruction Label)} {xs : List (Instruction Label × Bool)} {l : Layout}

/-! ## Numbers for labels -/

/-- The number is the offset of the label. -/
def IsOffset (l : Layout) (label : Label) (w : UInt16) : Prop :=
  l.offsetOf label = .ok w.toNat

/-- The number is the distance from an offset to the label. -/
def IsDistance (l : Layout) (start : Nat) (label : Label) (d : Int) : Prop :=
  ∃ offset, l.offsetOf label = .ok offset ∧ d = (offset : Int) - start

theorem isOffset_of_found {label : Label} (hfound : l.Found label) (hle : l.resolve label ≤ 65535) :
    l.IsOffset label (UInt16.ofNat (l.resolve label)) := by
  rw [IsOffset, toNat_ofNat16 (Nat.lt_succ_of_le hle)]
  exact hfound

/-- A distance within a code array is exact in four bytes. -/
theorem isDistance_of_found {label : Label} {start : Nat} (hfound : l.Found label) (hle : l.resolve label ≤ 65535)
    (hstart : start ≤ 65535) :
    l.IsDistance start label (Int32.ofInt ((l.resolve label : Int) - start)).toInt :=
  ⟨l.resolve label, hfound, Int32.toInt_ofInt_of_le (by omega) (by omega)⟩

/-- A distance that fits in two bytes is exact in them. -/
theorem isDistance_of_fitsInWord {label : Label} {start : Nat} (hfound : l.Found label)
    (hfits : fitsInWord ((l.resolve label : Int) - start) = true) :
    l.IsDistance start label (Int16.ofInt ((l.resolve label : Int) - start)).toInt := by
  simp only [fitsInWord, Bool.and_eq_true, decide_eq_true_eq] at hfits
  exact ⟨l.resolve label, hfound, Int16.toInt_ofInt_of_le (by omega) (by omega)⟩

/-! ## Instructions -/

/-- The bytes of an instruction hold the distances to its targets: two bytes for a short jump, four for a long one and
for a switch. -/
def Aims (l : Layout) (s : PlacedInstruction) (bytes : List UInt8) : Prop :=
  match s.instruction with
  | .jump op target =>
    if s.long then
      ∃ d : Int32, bytes = (if op = Opcode.goto then Opcode.gotoW else Opcode.jsrW) :: i32 d ∧
        l.IsDistance s.offset target d.toInt
    else ∃ d : Int16, bytes = op :: i16 d ∧ l.IsDistance s.offset target d.toInt
  | .tableSwitch otherwise low high targets =>
    ∃ (d : Int32) (ds : List Int32),
      bytes = Opcode.tableSwitch :: (paddingBytes s.offset ++ (i32 d ++ (i32 low ++ (i32 high ++ ds.flatMap i32)))) ∧
        l.IsDistance s.offset otherwise d.toInt ∧
        List.Forall₂ (fun target d => l.IsDistance s.offset target d.toInt) targets ds
  | .lookupSwitch otherwise pairs =>
    ∃ (d n : Int32) (ds : List (Int32 × Int32)),
      bytes = Opcode.lookupSwitch :: (paddingBytes s.offset ++ (i32 d ++ (i32 n ++
        ds.flatMap fun (key, d) => i32 key ++ i32 d))) ∧
        l.IsDistance s.offset otherwise d.toInt ∧ n.toInt = pairs.length ∧
        List.Forall₂ (fun pair d => pair.1 = d.1 ∧ l.IsDistance s.offset pair.2 d.2.toInt) pairs ds
  | _ => True

/-- The bytes that are written for a placed instruction are as many as its size, and aim at its targets. -/
structure Emits (l : Layout) (s : PlacedInstruction) (bytes : List UInt8) : Prop where
  written : l.stepBytes s = .ok bytes
  length : bytes.length = s.size
  aims : l.Aims s bytes

/-- Targets that are found are aimed at with the distances from `start`. -/
theorem forall₂_isDistance {targets : List Label} {start : Nat} (hfound : ∀ t ∈ targets, l.Found t)
    (hle : ∀ t ∈ targets, l.resolve t ≤ 65535) (hstart : start ≤ 65535) :
    List.Forall₂ (fun target (d : Int32) => l.IsDistance start target d.toInt) targets
      (targets.map fun t => Int32.ofInt ((l.resolve t : Int) - start)) := by
  rw [List.forall₂_map_right_iff, List.forall₂_same]
  exact fun t ht => isDistance_of_found (hfound t ht) (hle t ht) hstart

/-- **An instruction of a settled layout aims at its targets**, if they are placed and the code is no longer than 65535
bytes. -/
theorem Settled.aims (h : Settled is l xs) (hlen : l.length ≤ 65535) {s : PlacedInstruction} (hs : s ∈ l.steps)
    (hfound : ∀ p ∈ s.instruction.positions, l.Found p) : l.Aims s (stepCode l.resolve s) := by
  have hreaches := h.reaches hs hfound
  have hinside : ∀ p ∈ s.instruction.positions, l.resolve p ≤ 65535 :=
    fun p hp => Nat.le_trans (h.resolve_le (hfound p hp)) hlen
  have hstop : s.offset + s.instruction.size s.offset s.long ≤ l.length :=
    h.length_eq ▸ (bounds_of_mem_placed (h.steps_eq ▸ hs)).2
  have hstart : s.offset ≤ 65535 := by omega
  rw [Aims, stepCode]
  -- only these three have targets; nothing is aimed at by the others
  cases hi : s.instruction with
  | jump op target =>
    rw [hi] at hreaches hfound hinside
    have htarget := hfound target (List.mem_singleton_self target)
    have hle := hinside target (List.mem_singleton_self target)
    have hforms := hreaches.jump op (l.resolve target) rfl
    dsimp only
    rw [Instruction.map, Instruction.toBytes]
    cases hlong : s.long with
    | true => exact ⟨_, rfl, isDistance_of_found htarget hle hstart⟩
    | false =>
      rw [hlong, if_neg Bool.false_ne_true] at hforms
      exact ⟨_, rfl, isDistance_of_fitsInWord htarget hforms⟩
  | tableSwitch otherwise low high targets =>
    rw [hi, Instruction.positions, List.forall_mem_cons] at hfound hinside
    refine ⟨_, targets.map fun t => Int32.ofInt ((l.resolve t : Int) - s.offset), ?_,
      isDistance_of_found hfound.1 hinside.1 hstart, forall₂_isDistance hfound.2 hinside.2 hstart⟩
    rw [Instruction.map, Instruction.toBytes, List.flatMap_map, List.flatMap_map]
    rfl
  | lookupSwitch otherwise pairs =>
    rw [hi, Instruction.positions, List.forall_mem_cons, List.forall_mem_map] at hfound hinside
    rw [hi, Instruction.size] at hstop
    refine ⟨_, (UInt32.ofNat pairs.length).toInt32,
      pairs.map fun pair => (pair.1, Int32.ofInt ((l.resolve pair.2 : Int) - s.offset)), ?_,
      isDistance_of_found hfound.1 hinside.1 hstart, toInt_toInt32_ofNat (by omega), ?_⟩
    · -- the count of the pairs is written without a sign, and is read with one
      have hcount : i32 (UInt32.ofNat pairs.length).toInt32 = u32 (UInt32.ofNat pairs.length) := by
        rw [i32, UInt32.toUInt32_toInt32]
      rw [Instruction.map, Instruction.toBytes, List.flatMap_map, List.flatMap_map, List.length_map, hcount]
      rfl
    · rw [List.forall₂_map_right_iff, List.forall₂_same]
      exact fun pair hpair => ⟨rfl, isDistance_of_found (hfound.2 pair hpair) (hinside.2 pair hpair) hstart⟩
  | _ => trivial

/-- **The code array** is the bytes of the instructions, each of which starts at its offset. -/
theorem Settled.emits (h : Settled is l xs) (hlen : l.length ≤ 65535) {code : List UInt8} (hcode : l.code = .ok code) :
    ∃ chunks, chunks.flatten = code ∧ List.Forall₂ l.Emits l.steps chunks ∧
      (∀ i s, l.steps[i]? = some s → (chunks.take i).flatten.length = s.offset) ∧ code.length = l.length := by
  obtain ⟨hfound, rfl⟩ := code_eq_ok.mp hcode
  refine ⟨l.steps.map (stepCode l.resolve), rfl, ?_, ?_, h.length_code l.resolve⟩
  · rw [List.forall₂_map_right_iff, List.forall₂_same]
    intro s hs
    refine ⟨?_, length_stepCode l.resolve s, h.aims hlen hs (hfound s hs)⟩
    have hlabels := (Instruction.mapM_eq_ok l.totals_resolve).mpr ⟨hfound s hs, rfl⟩
    rw [stepBytes, hlabels]
    rfl
  · intro i s hs
    rw [h.steps_eq] at hs ⊢
    rw [← List.map_take, take_placed]
    have hlength := length_flatMap_stepCode l.resolve 0 (xs.take i)
    rw [Nat.zero_add] at hlength
    rw [getElem?_placed] at hs
    obtain ⟨x, -, rfl⟩ := Option.map_eq_some_iff.mp hs
    exact hlength

/-! ## Rows -/

/-- A row of the table of handlers. -/
def HandlerExact (l : Layout) (h : Handler Label) (bytes : List UInt8) : Prop :=
  ∃ start stop handler : UInt16, bytes = u16 start ++ (u16 stop ++ (u16 handler ++ u16 h.catchType)) ∧
    l.IsOffset h.start start ∧ l.IsOffset h.stop stop ∧ l.IsOffset h.handler handler

/-- A row of the table of line numbers. -/
def LineExact (l : Layout) (e : LineEntry Label) (bytes : List UInt8) : Prop :=
  ∃ start : UInt16, bytes = u16 start ++ u16 e.line ∧ l.IsOffset e.start start

/-- A row of a table of variables: where the range starts and how far it goes, which is not at all if it ends in front
of its start. -/
def VariableExact (l : Layout) (v : VariableEntry Label) (bytes : List UInt8) : Prop :=
  ∃ start span stop : UInt16,
    bytes = u16 start ++ (u16 span ++ (u16 v.nameIndex ++ (u16 v.typeIndex ++ u16 v.index))) ∧
      l.IsOffset v.start start ∧ l.IsOffset v.stop stop ∧ span.toNat = stop.toNat - start.toNat

/-- A type with the offset of its site. -/
inductive TypeExact (l : Layout) : VerificationType Label → List UInt8 → Prop
  | uninitialized {label : Label} {site : UInt16} (h : l.IsOffset label site) :
    TypeExact l (.uninitialized label) (8 :: u16 site)
  /-- A type without a site. -/
  | plain {t : VerificationType Label} {bytes : List UInt8} (hplain : t.positions = [])
    (hbytes : t.encode l.offsetOf = .ok bytes) : TypeExact l t bytes

/-- A frame behind a gap, which is in the first byte or in the two behind it. -/
inductive KindExact (l : Layout) : Nat → FrameKind Label → List UInt8 → Prop
  | sameShort (tag : UInt8) (hshort : tag.toNat ≤ 63) : KindExact l tag.toNat .same [tag]
  | same (gap : UInt16) (hlong : 63 < gap.toNat) : KindExact l gap.toNat .same (251 :: u16 gap)
  | itemShort {item : VerificationType Label} {bytes : List UInt8} {gap : Nat} (tag : UInt8) (hshort : gap ≤ 63)
    (htag : tag.toNat = 64 + gap) (h : TypeExact l item bytes) : KindExact l gap (.sameWithItem item) (tag :: bytes)
  | item {item : VerificationType Label} {bytes : List UInt8} (gap : UInt16) (hlong : 63 < gap.toNat)
    (h : TypeExact l item bytes) : KindExact l gap.toNat (.sameWithItem item) (247 :: (u16 gap ++ bytes))
  | chop (count : UInt8) (gap : UInt16) : KindExact l gap.toNat (.chop count) ((251 - count) :: u16 gap)
  | append {locals : List (VerificationType Label)} {chunks : List (List UInt8)} (gap : UInt16)
    (h : List.Forall₂ (TypeExact l) locals chunks) :
    KindExact l gap.toNat (.append locals) (UInt8.ofNat (251 + locals.length) :: (u16 gap ++ chunks.flatten))
  | full {locals stack : List (VerificationType Label)} {chunks chunks' : List (List UInt8)} (gap : UInt16)
    (h : List.Forall₂ (TypeExact l) locals chunks) (h' : List.Forall₂ (TypeExact l) stack chunks') :
    KindExact l gap.toNat (.full locals stack) (255 :: (u16 gap ++ (count16 locals.length ++ (chunks.flatten ++
      (count16 stack.length ++ chunks'.flatten)))))

/-- Frames one after the other, none of them in front of `next`: each stands as far behind the offset that follows the
one before it as its gap says. -/
inductive FramesExact (l : Layout) : (next : Nat) → List (Frame Label) → List UInt8 → Prop
  | nil (next : Nat) : FramesExact l next [] []
  | cons {next gap : Nat} {fr : Frame Label} {frames : List (Frame Label)} {bytes rest : List UInt8}
    (hoffset : l.offsetOf fr.position = .ok (next + gap)) (hkind : l.KindExact gap fr.kind bytes)
    (hrest : FramesExact l (next + gap + 1) frames rest) : FramesExact l next (fr :: frames) (bytes ++ rest)

section

variable (hinside : ∀ label, l.Found label → l.resolve label ≤ 65535)

include hinside

theorem handlerExact_row {h : Handler Label} (hfound : ∀ p ∈ h.positions, l.Found p) :
    l.HandlerExact h (handlerRow (h.map l.resolve)) := by
  have hexact : ∀ p ∈ h.positions, l.IsOffset p (UInt16.ofNat (l.resolve p)) :=
    fun p hp => isOffset_of_found (hfound p hp) (hinside p (hfound p hp))
  refine ⟨_, _, _, rfl, hexact _ ?_, hexact _ ?_, hexact _ ?_⟩ <;> simp [Handler.positions]

theorem lineExact_row {e : LineEntry Label} (hfound : l.Found e.start) : l.LineExact e (lineRow (e.map l.resolve)) :=
  ⟨_, rfl, isOffset_of_found hfound (hinside e.start hfound)⟩

theorem variableExact_row {v : VariableEntry Label} (hfound : ∀ p ∈ v.positions, l.Found p) :
    l.VariableExact v (variableRow (v.map l.resolve)) := by
  simp only [VariableEntry.positions, List.forall_mem_cons, List.not_mem_nil] at hfound
  obtain ⟨hstart, hstop, -⟩ := hfound
  have hstart' := hinside v.start hstart
  have hstop' := hinside v.stop hstop
  refine ⟨UInt16.ofNat (l.resolve v.start), UInt16.ofNat (l.resolve v.stop - l.resolve v.start), _, rfl,
    isOffset_of_found hstart hstart', isOffset_of_found hstop hstop', ?_⟩
  rw [toNat_ofNat16 (by omega), toNat_ofNat16 (by omega), toNat_ofNat16 (by omega)]

theorem typeExact_toBytes {t : VerificationType Label} (hfound : ∀ p ∈ t.positions, l.Found p) :
    l.TypeExact t (t.map l.resolve).toBytes := by
  cases t with
  | uninitialized label =>
    have hlabel := hfound label (List.mem_singleton_self label)
    exact .uninitialized (isOffset_of_found hlabel (hinside label hlabel))
  | _ => exact .plain rfl rfl

theorem forall₂_typeExact {ts : List (VerificationType Label)}
    (hfound : ∀ p ∈ ts.flatMap VerificationType.positions, l.Found p) :
    List.Forall₂ l.TypeExact ts (ts.map fun t => (t.map l.resolve).toBytes) := by
  rw [List.forall₂_map_right_iff, List.forall₂_same]
  exact fun t ht => typeExact_toBytes hinside fun p hp => hfound p (List.mem_flatMap.mpr ⟨t, ht, hp⟩)

/-- **A frame is exact** if its gap fits in two bytes and its sites are placed. -/
theorem kindExact_toBytes {k : FrameKind Label} {gap : Nat} (hgap : gap ≤ 65535)
    (hfound : ∀ p ∈ k.positions, l.Found p) : l.KindExact gap k ((k.map l.resolve).toBytes gap) := by
  have hlong : (UInt16.ofNat gap).toNat = gap := toNat_ofNat16 (Nat.lt_succ_of_le hgap)
  cases k with
  | same =>
    rw [FrameKind.map, FrameKind.toBytes]
    split
    · rename_i hshort
      have htag : (UInt8.ofNat gap).toNat = gap := by
        rw [UInt8.toNat_ofNat']
        omega
      have hkind := KindExact.sameShort (l := l) (UInt8.ofNat gap) (by omega)
      rwa [htag] at hkind
    · have hkind := KindExact.same (l := l) (UInt16.ofNat gap) (by omega)
      rwa [hlong] at hkind
  | sameWithItem item =>
    have hitem := typeExact_toBytes hinside hfound
    rw [FrameKind.map, FrameKind.toBytes]
    split
    · rename_i hshort
      have htag : (UInt8.ofNat (64 + gap)).toNat = 64 + gap := by
        rw [UInt8.toNat_ofNat']
        omega
      exact .itemShort _ hshort htag hitem
    · have hkind := KindExact.item (UInt16.ofNat gap) (by omega) hitem
      rwa [hlong] at hkind
  | chop count =>
    have hkind := KindExact.chop (l := l) count (UInt16.ofNat gap)
    rwa [hlong] at hkind
  | append locals =>
    have hkind := KindExact.append (UInt16.ofNat gap) (forall₂_typeExact hinside hfound)
    rw [hlong] at hkind
    rwa [FrameKind.map, FrameKind.toBytes, List.length_map, List.flatMap_map]
  | full locals stack =>
    rw [FrameKind.positions, List.flatMap_append, List.forall_mem_append] at hfound
    have hkind := KindExact.full (UInt16.ofNat gap) (forall₂_typeExact hinside hfound.1)
      (forall₂_typeExact hinside hfound.2)
    rw [hlong] at hkind
    rwa [FrameKind.map, FrameKind.toBytes, List.length_map, List.length_map, List.flatMap_map, List.flatMap_map]

/-- **Frames in the order of their offsets** are exact, gap after gap. -/
theorem framesExact_gaps {frames : List (Frame Label)} {next : Nat}
    (hascending : Frame.Ascending next (frames.map (Frame.located l.resolve)))
    (hfound : ∀ fr ∈ frames, ∀ p ∈ fr.positions, l.Found p) :
    l.FramesExact next frames
      (Frame.rowBytes (Frame.gaps next (frames.map fun fr => (l.resolve fr.position, fr.kind.map l.resolve)))) := by
  -- a frame stands at `next` or behind it, so its gap is a true difference, no larger than its offset
  induction frames generalizing next with
  | nil => exact .nil next
  | cons fr rest ih =>
    obtain ⟨hle, hrest⟩ := hascending
    rw [List.forall_mem_cons] at hfound
    have hposition := hfound.1 fr.position fr.position_mem
    have hwithin := hinside fr.position hposition
    have hgap : next + (l.resolve fr.position - next) = l.resolve fr.position := Nat.add_sub_cancel' hle
    have hoffset : l.offsetOf fr.position = .ok (next + (l.resolve fr.position - next)) := hgap.symm ▸ hposition
    have hkind : l.KindExact (l.resolve fr.position - next) fr.kind
        ((fr.kind.map l.resolve).toBytes (l.resolve fr.position - next)) :=
      kindExact_toBytes hinside (by omega) fun p hp => hfound.1 p (List.mem_append_left _ hp)
    have htail := ih hrest hfound.2
    exact .cons hoffset hkind (by rwa [hgap])

end

end Layout

namespace MethodBody

open ConstantPool (Addition)

variable {b : MethodBody} {l : Layout} {p q : ConstantPool} {attributes : List Attribute}

/-! ## Tables -/

/-- A table is written under its name, row by row, if it has rows. -/
def TableExact {α : Type} (name : String) (row : α → List UInt8 → Prop) (rows : List α)
    (attributes : List Attribute) : Prop :=
  rows = [] ∧ attributes = [] ∨
    ∃ before index after chunks, ConstantPool.addUtf8 name before = (.ok index, after) ∧
      attributes = [⟨index, count16 rows.length ++ chunks.flatten⟩] ∧ List.Forall₂ row rows chunks

/-- The frames are written under the name of their table, in the order of their offsets. -/
def FrameTableExact (l : Layout) (frames : List (Frame Label)) (attributes : List Attribute) : Prop :=
  frames = [] ∧ attributes = [] ∨
    ∃ before index after sorted bytes, ConstantPool.addUtf8 "StackMapTable" before = (.ok index, after) ∧
      attributes = [⟨index, count16 frames.length ++ bytes⟩] ∧ sorted.Perm frames ∧ l.FramesExact 0 sorted bytes

/-- A table whose rows are exact wherever they can be written. -/
theorem tableExact_of_tableAttribute {α : Type} {name : String} {row : α → Except Defect (List UInt8)}
    {write : α → List UInt8} {exact : α → List UInt8 → Prop} (hrow : Totals write row)
    (hexact : ∀ a, row a = .ok (write a) → exact a (write a)) {rows : List α}
    (h : tableAttribute name row rows p = (.ok attributes, q)) : TableExact name exact rows attributes := by
  obtain ⟨hrows, ⟨hnil, hnone, -⟩ | ⟨-, index, hindex, rfl⟩⟩ := tableAttribute_eq_ok hrow h
  · exact .inl ⟨hnil, hnone⟩
  · refine .inr ⟨p, index, q, rows.map write, hindex, rfl, ?_⟩
    rw [List.forall₂_map_right_iff, List.forall₂_same]
    exact fun a ha => hexact a (hrows a ha)

theorem frameTableExact_of_frameAttribute (hinside : ∀ label, l.Found label → l.resolve label ≤ 65535)
    {frames : List (Frame Label)} (h : frameAttribute l frames p = (.ok attributes, q)) :
    FrameTableExact l frames attributes := by
  rw [frameAttribute] at h
  cases frames with
  | nil =>
    obtain ⟨rfl, rfl⟩ := Addition.pure_eq_ok.mp h
    exact .inl ⟨rfl, rfl⟩
  | cons first rest =>
    obtain ⟨bytes, hwritten, h⟩ := Addition.lift_bind_eq_ok.mp h
    obtain ⟨index, middle, hindex, h⟩ := Addition.bind_eq_ok.mp h
    obtain ⟨rfl, rfl⟩ := Addition.pure_eq_ok.mp h
    obtain ⟨hfound, hascending, rfl⟩ := (Frame.encodeTable_eq_ok l.totals_resolve).mp hwritten
    exact .inr ⟨p, index, middle, _, _, hindex, rfl, List.mergeSort_perm _ _,
      Layout.framesExact_gaps hinside hascending fun fr hfr => hfound fr (Frame.mem_sorted.mp hfr)⟩

/-! ## Payloads in parts -/

/-- The bytes of each instruction and of each handler, and the attributes that hold the other tables. -/
structure Parts where
  code : List (List UInt8)
  handlers : List (List UInt8)
  lines : List Attribute
  variableRows : List Attribute
  variableTypes : List Attribute
  frames : List Attribute

/-- The payload of a body that consists of the parts. -/
def assemble (b : MethodBody) (parts : Parts) : List UInt8 :=
  u16 b.maxStack ++ (u16 b.maxLocals ++ (sized parts.code.flatten ++ (count16 b.handlers.length ++
    (parts.handlers.flatten ++ countedBytes Attribute.toBytes (parts.lines ++ (parts.variableRows ++
      (parts.variableTypes ++ (parts.frames ++ b.attributes))))))))

/-- Instructions start at their offsets and take as many bytes as they have been given, and whatever is written for a
label is its offset or the distance to it. -/
structure Parts.Exact (b : MethodBody) (l : Layout) (parts : Parts) : Prop where
  code : List.Forall₂ l.Emits l.steps parts.code
  starts : ∀ i s, l.steps[i]? = some s → (parts.code.take i).flatten.length = s.offset
  length : parts.code.flatten.length = l.length
  handlers : List.Forall₂ l.HandlerExact b.handlers parts.handlers
  lines : TableExact "LineNumberTable" l.LineExact b.lines parts.lines
  variableRows : TableExact "LocalVariableTable" l.VariableExact b.variableRows parts.variableRows
  variableTypes : TableExact "LocalVariableTypeTable" l.VariableExact b.variableTypes parts.variableTypes
  frames : FrameTableExact l (b.frames.getD []) parts.frames

/-- **A payload that is written** has the layout of its body, and is exact in every part, if the length of the code array
can be counted in 32 bits. -/
theorem encode_exact (hsize : ∀ l, b.layout = .ok l → l.span < 4294967296) {payload : List UInt8}
    (h : b.encode p = (.ok payload, q)) :
    ∃ l parts, b.layout = .ok l ∧ l.LaysOut b.instructions ∧ l.length ≤ 65535 ∧ parts.Exact b l ∧
      b.assemble parts = payload := by
  obtain ⟨l, code, attributes, hlayout, hlen, hcode, hhandlers, hattributes, rfl⟩ := encode_eq_ok h
  obtain ⟨xs, hl⟩ := Layout.layout_settled hlayout (hsize l hlayout)
  -- the limit on the code is what makes two bytes enough for every label
  have hinside : ∀ label, l.Found label → l.resolve label ≤ 65535 :=
    fun label hfound => Nat.le_trans (hl.resolve_le hfound) hlen
  obtain ⟨chunks, rfl, hemits, hstarts, hlength⟩ := hl.emits hlen hcode
  rw [encodeAttributes] at hattributes
  obtain ⟨lines, p₁, hlines, hattributes⟩ := Addition.bind_eq_ok.mp hattributes
  obtain ⟨variableRows, p₂, hvariableRows, hattributes⟩ := Addition.bind_eq_ok.mp hattributes
  obtain ⟨variableTypes, p₃, hvariableTypes, hattributes⟩ := Addition.bind_eq_ok.mp hattributes
  obtain ⟨frames, p₄, hframes, hattributes⟩ := Addition.bind_eq_ok.mp hattributes
  obtain ⟨rfl, rfl⟩ := Addition.pure_eq_ok.mp hattributes
  have hline : Totals (fun e => lineRow (e.map l.resolve)) l.lineBytes :=
    fun _ _ h => (Layout.lineBytes_eq_ok.mp h).2
  have hvariable : Totals (fun v => variableRow (v.map l.resolve)) l.variableBytes :=
    fun _ _ h => (Layout.variableBytes_eq_ok.mp h).2
  have hvariableExact : ∀ v, l.variableBytes v = .ok (variableRow (v.map l.resolve)) →
      l.VariableExact v (variableRow (v.map l.resolve)) :=
    fun v hv => Layout.variableExact_row hinside (Layout.variableBytes_eq_ok.mp hv).1
  refine ⟨l, ⟨chunks, b.handlers.map fun h => handlerRow (h.map l.resolve), lines, variableRows, variableTypes, frames⟩,
    hlayout, hl.laysOut, hlen, ⟨hemits, hstarts, hlength, ?_, ?_, ?_, ?_, ?_⟩, ?_⟩
  · rw [List.forall₂_map_right_iff, List.forall₂_same]
    exact fun row hrow => Layout.handlerExact_row hinside (hhandlers row hrow)
  · exact tableExact_of_tableAttribute hline
      (fun e he => Layout.lineExact_row hinside (Layout.lineBytes_eq_ok.mp he).1) hlines
  · exact tableExact_of_tableAttribute hvariable hvariableExact hvariableRows
  · exact tableExact_of_tableAttribute hvariable hvariableExact hvariableTypes
  · exact frameTableExact_of_frameAttribute hinside hframes
  · rw [assemble, List.flatMap_map]
    rfl

/-- A body with a switch, a jump back and every table. -/
theorem encode_exact_countdown :
    (∀ l, countdown.layout = .ok l → l.span < 4294967296) ∧
      countdown.encode (texts ["Note"]) =
        (.ok countdownBytes, texts ["Note", "LineNumberTable", "LocalVariableTable", "StackMapTable"]) ∧
      ∃ l parts, countdown.layout = .ok l ∧ l.LaysOut countdown.instructions ∧ l.length ≤ 65535 ∧
        parts.Exact countdown l ∧ countdown.assemble parts = countdownBytes :=
  ⟨wellFormed_countdown.size, encode_countdown, encode_exact wellFormed_countdown.size encode_countdown⟩

end MethodBody

end ClassWeaver
