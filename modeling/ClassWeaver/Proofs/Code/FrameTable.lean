import ClassWeaver.Proofs.Bytes.Reading
import ClassWeaver.Proofs.Code.Positions

/-!
# The table of frames

Frames are written in the order of their offsets, each with the gap between it and the one before. Reading adds the
gaps up again. The gap is one less than the distance, so two frames at one offset cannot be written.

## Contents

* `toBytes`, `encode_eq_ok` — types and kinds over offsets as bytes; writing over labels resolves and writes these.
* `FrameKind.Shaped`, `reads_kind` — reading one frame.
* `gaps`, `Ascending`, `place_gaps` — offsets and gaps.
* `encodeTable_eq_ok`, `parse_table` — the table.
-/

namespace ClassWeaver

open Bytes Decoder

variable {π : Type} {f : π → Except Defect Nat} {g : π → Nat}

/-! ## Types -/

namespace VerificationType

/-- The bytes of a type over offsets. -/
def toBytes : VerificationType Nat → List UInt8
  | top => [0]
  | integer => [1]
  | float => [2]
  | double => [3]
  | long => [4]
  | null => [5]
  | uninitializedThis => [6]
  | object index => 7 :: u16 index
  | uninitialized offset => 8 :: count16 offset

theorem encode_eq_ok (hg : Totals g f) {t : VerificationType π} {bytes : List UInt8} :
    t.encode f = .ok bytes ↔ (∀ p ∈ t.positions, f p = .ok (g p)) ∧ (t.map g).toBytes = bytes := by
  cases t with
  | uninitialized p =>
    simp only [encode, positions, map, toBytes, List.forall_mem_singleton]
    cases hp : f p with
    | error e => simp
    | ok offset =>
      rw [hg p offset hp]
      simp
  | _ => simp [encode, positions, map, toBytes]

theorem encodeAll_eq_ok (hg : Totals g f) {ts : List (VerificationType π)} {bytes : List UInt8} :
    encodeAll f ts = .ok bytes ↔
      (∀ p ∈ ts.flatMap positions, f p = .ok (g p)) ∧ (ts.map (map g)).flatMap toBytes = bytes := by
  have hencode : Totals (fun t => (t.map g).toBytes) (encode f) := fun t bytes h => ((encode_eq_ok hg).mp h).2
  rw [encodeAll, hencode.mapM.map_eq_ok, hencode.mapM_eq_ok]
  simp only [encode_eq_ok hg, and_true, List.mem_flatMap]
  rw [List.flatMap_map, List.flatMap, eq_comm (a := bytes)]
  exact and_congr_left fun _ => ⟨fun h p ⟨t, ht, hp⟩ => h t ht p hp, fun h t ht p hp => h p ⟨t, ht, hp⟩⟩

theorem reads_type {t : VerificationType Nat} (h : ∀ p ∈ t.positions, p < 65536) :
    Reads VerificationType.decode t.toBytes t := by
  cases t with
  | object index => exact (reads_u1 7).bind ((reads_u2 index).bind_pure object)
  | uninitialized offset =>
    exact (reads_u1 8).bind (reads_count16 (h offset (List.mem_singleton_self offset)) uninitialized)
  | _ => exact fun _ => rfl

theorem reads_types {ts : List (VerificationType Nat)} (h : ∀ p ∈ ts.flatMap positions, p < 65536) :
    ∀ t ∈ ts, Reads VerificationType.decode t.toBytes t :=
  fun t ht => reads_type fun p hp => h p (List.mem_flatMap.mpr ⟨t, ht, hp⟩)

end VerificationType

/-! ## Kinds -/

namespace FrameKind

open VerificationType (encodeAll_eq_ok encode_eq_ok reads_type)

/-- The bytes of a frame whose types are over offsets. -/
def toBytes (delta : Nat) : FrameKind Nat → List UInt8
  | same => if delta ≤ 63 then [UInt8.ofNat delta] else 251 :: count16 delta
  | sameWithItem item => (if delta ≤ 63 then [UInt8.ofNat (64 + delta)] else 247 :: count16 delta) ++ item.toBytes
  | chop count => (251 - count) :: count16 delta
  | append locals => UInt8.ofNat (251 + locals.length) :: (count16 delta ++ locals.flatMap VerificationType.toBytes)
  | full locals stack => 255 :: (count16 delta ++ (count16 locals.length ++ (locals.flatMap VerificationType.toBytes ++
      (count16 stack.length ++ stack.flatMap VerificationType.toBytes))))

theorem encode_eq_ok (hg : Totals g f) {delta : Nat} {k : FrameKind π} {bytes : List UInt8} :
    k.encode f delta = .ok bytes ↔ (∀ p ∈ k.positions, f p = .ok (g p)) ∧ (k.map g).toBytes delta = bytes := by
  have hencode : Totals (fun t : VerificationType π => (t.map g).toBytes) (VerificationType.encode f) :=
    fun t bytes h => ((VerificationType.encode_eq_ok hg).mp h).2
  have hall : Totals (fun ts : List (VerificationType π) => (ts.map (·.map g)).flatMap VerificationType.toBytes)
      (VerificationType.encodeAll f) := fun t bytes h => ((encodeAll_eq_ok hg).mp h).2
  cases k with
  | same => simp [encode, positions, map, toBytes]
  | sameWithItem item =>
    rw [encode, hencode.bind_eq_ok, VerificationType.encode_eq_ok hg]
    simp [positions, map, toBytes, pure, Except.pure]
  | chop count => simp [encode, positions, map, toBytes]
  | append locals =>
    rw [encode, hall.bind_eq_ok, encodeAll_eq_ok hg]
    simp [positions, map, toBytes, pure, Except.pure]
  | full locals stack =>
    rw [encode, hall.bind_eq_ok, hall.bind_eq_ok, encodeAll_eq_ok hg, encodeAll_eq_ok hg]
    simp only [positions, List.flatMap_append, List.forall_mem_append, and_true, pure, Except.pure, map, toBytes,
      List.length_map, Except.ok.injEq, and_assoc]

/-- A frame drops or adds one to three locals, and its lists have lengths that can be written. -/
def Shaped : FrameKind π → Prop
  | chop count => 1 ≤ count ∧ count ≤ 3
  | append locals => 1 ≤ locals.length ∧ locals.length ≤ 3
  | full locals stack => locals.length < 65536 ∧ stack.length < 65536
  | _ => True

theorem shaped_map {ρ : Type} (g : π → ρ) (k : FrameKind π) : (k.map g).Shaped ↔ k.Shaped := by
  cases k <;> simp [map, Shaped]

section

variable {delta : Nat} (hd : delta < 65536)

include hd

theorem reads_same : Reads FrameKind.decode (same.toBytes delta) (delta, same) := by
  rw [toBytes]
  by_cases hshort : delta ≤ 63
  · have htag : (UInt8.ofNat delta).toNat = delta := by
      rw [UInt8.toNat_ofNat']
      omega
    rw [if_pos hshort]
    show Reads _ ([UInt8.ofNat delta] ++ []) _
    refine (reads_u1 _).bind ?_
    rw [htag, if_pos hshort]
    exact Reads.pure _
  · rw [if_neg hshort]
    exact (reads_u1 251).bind (reads_count16 hd fun delta => (delta, same))

theorem reads_sameWithItem {item : VerificationType Nat} (hp : ∀ p ∈ item.positions, p < 65536) :
    Reads FrameKind.decode ((sameWithItem item).toBytes delta) (delta, sameWithItem item) := by
  have hitem : Reads (do return (delta, sameWithItem (← VerificationType.decode))) item.toBytes
      (delta, sameWithItem item) := (reads_type hp).bind_pure fun item => (delta, sameWithItem item)
  rw [toBytes]
  by_cases hshort : delta ≤ 63
  · have htag : (UInt8.ofNat (64 + delta)).toNat = 64 + delta := by
      rw [UInt8.toNat_ofNat']
      omega
    rw [if_pos hshort]
    refine (reads_u1 _).bind ?_
    rw [htag, if_neg (by omega), if_pos (by omega), Nat.add_sub_cancel_left]
    exact hitem
  · rw [if_neg hshort]
    have hread := reads_count16_bind hd
      (fun delta => do return (delta, sameWithItem (← VerificationType.decode))) hitem
    exact (reads_u1 247).bind hread

theorem reads_chop {count : UInt8} (hlow : 1 ≤ count) (hhigh : count ≤ 3) :
    Reads FrameKind.decode ((chop count).toBytes delta) (delta, chop count) := by
  have hcount : count = 1 ∨ count = 2 ∨ count = 3 := by
    have hlow' : 1 ≤ count.toNat := UInt8.le_iff_toNat_le.mp hlow
    have hhigh' : count.toNat ≤ 3 := UInt8.le_iff_toNat_le.mp hhigh
    rcases (by omega : count.toNat = 1 ∨ count.toNat = 2 ∨ count.toNat = 3) with h | h | h
    · exact .inl (UInt8.toNat.inj h)
    · exact .inr (.inl (UInt8.toNat.inj h))
    · exact .inr (.inr (UInt8.toNat.inj h))
  have hread := reads_count16 hd fun delta => (delta, (chop count : FrameKind Nat))
  -- each of the three has a tag of its own
  rw [toBytes]
  rcases hcount with rfl | rfl | rfl
  · exact (reads_u1 250).bind hread
  · exact (reads_u1 249).bind hread
  · exact (reads_u1 248).bind hread

theorem reads_append {locals : List (VerificationType Nat)} (hlow : 1 ≤ locals.length) (hhigh : locals.length ≤ 3)
    (hp : ∀ p ∈ locals.flatMap VerificationType.positions, p < 65536) :
    Reads FrameKind.decode ((append locals).toBytes delta) (delta, append locals) := by
  have hread := fun n hn => reads_count16_bind hd
    (fun delta => do return (delta, append (← repeated VerificationType.decode n)))
    ((reads_repeated hn (VerificationType.reads_types hp)).bind_pure fun ts => (delta, append ts))
  rw [toBytes]
  rcases (by omega : locals.length = 1 ∨ locals.length = 2 ∨ locals.length = 3) with hn | hn | hn
  · rw [hn]
    exact (reads_u1 252).bind (hread 1 hn)
  · rw [hn]
    exact (reads_u1 253).bind (hread 2 hn)
  · rw [hn]
    exact (reads_u1 254).bind (hread 3 hn)

theorem reads_full {locals stack : List (VerificationType Nat)} (hlocals : locals.length < 65536)
    (hstack : stack.length < 65536) (hp : ∀ p ∈ locals.flatMap VerificationType.positions, p < 65536)
    (hp' : ∀ p ∈ stack.flatMap VerificationType.positions, p < 65536) :
    Reads FrameKind.decode ((full locals stack).toBytes delta) (delta, full locals stack) := by
  have hread := reads_count16_bind hd
    (fun delta => do
      let locals ← Decoder.counted VerificationType.decode
      let stack ← Decoder.counted VerificationType.decode
      return (delta, full locals stack))
    ((reads_counted hlocals (VerificationType.reads_types hp)).bind
      ((reads_counted hstack (VerificationType.reads_types hp')).bind_pure fun stack => (delta, full locals stack)))
  rw [toBytes]
  simp only [List.append_assoc] at hread
  exact (reads_u1 255).bind hread

/-- **A frame reads back**, with its gap, whichever form the gap has. -/
theorem reads_kind {k : FrameKind Nat} (hk : k.Shaped) (hp : ∀ p ∈ k.positions, p < 65536) :
    Reads FrameKind.decode (k.toBytes delta) (delta, k) := by
  cases k with
  | same => exact reads_same hd
  | sameWithItem item => exact reads_sameWithItem hd hp
  | chop count => exact reads_chop hd hk.1 hk.2
  | append locals => exact reads_append hd hk.1 hk.2 hp
  | full locals stack =>
    rw [positions, List.flatMap_append, List.forall_mem_append] at hp
    exact reads_full hd hk.1 hk.2 hp.1 hp.2

end

end FrameKind

/-! ## Gaps -/

namespace Frame

/-- Offsets that increase and start with `next` or behind it. -/
def Ascending {κ : Type} (next : Nat) : List (Nat × κ) → Prop
  | [] => True
  | (offset, _) :: rest => next ≤ offset ∧ Ascending (offset + 1) rest

/-- The gaps between offsets, each with what stands there. -/
def gaps {κ : Type} (next : Nat) : List (Nat × κ) → List (Nat × κ)
  | [] => []
  | (offset, kind) :: rest => (offset - next, kind) :: gaps (offset + 1) rest

/-- **Adding the gaps up gives the offsets.** -/
theorem place_gaps {next : Nat} {placed : List (Nat × FrameKind Nat)} (h : Ascending next placed) :
    place next (gaps next placed) = placed.map fun p => ⟨p.1, p.2⟩ := by
  induction placed generalizing next with
  | nil => rfl
  | cons p rest ih =>
    obtain ⟨hle, hrest⟩ := h
    rw [gaps, place, List.map_cons, Nat.add_sub_cancel' hle, ih hrest]

/-- What stands at the offsets does not matter. -/
theorem ascending_map {κ κ' : Type} (make : κ → κ') {next : Nat} {placed : List (Nat × κ)} :
    Ascending next (placed.map fun q => (q.1, make q.2)) ↔ Ascending next placed := by
  induction placed generalizing next with
  | nil => exact Iff.rfl
  | cons q rest ih => exact and_congr_right fun _ => ih

theorem Ascending.le_of_mem {κ : Type} {next : Nat} {placed : List (Nat × κ)} (h : Ascending next placed) :
    ∀ p ∈ placed, next ≤ p.1 := by
  induction placed generalizing next with
  | nil => exact nofun
  | cons q rest ih =>
    obtain ⟨hle, hrest⟩ := h
    intro p hp
    rcases List.mem_cons.mp hp with rfl | hp
    · exact hle
    · have := ih hrest p hp
      omega

theorem Ascending.pairwise {κ : Type} {next : Nat} {placed : List (Nat × κ)} (h : Ascending next placed) :
    placed.Pairwise fun p q => p.1 < q.1 := by
  induction placed generalizing next with
  | nil => exact .nil
  | cons q rest ih => exact .cons (fun p hp => h.2.le_of_mem p hp) (ih h.2)

theorem length_gaps {κ : Type} (next : Nat) (placed : List (Nat × κ)) :
    (gaps next placed).length = placed.length := by
  induction placed generalizing next with
  | nil => rfl
  | cons q rest ih => rw [gaps, List.length_cons, ih, List.length_cons]

/-- A gap is no larger than the offset behind it. -/
theorem exists_of_mem_gaps {κ : Type} {next : Nat} {placed : List (Nat × κ)} :
    ∀ row ∈ gaps next placed, ∃ q ∈ placed, row.1 ≤ q.1 ∧ row.2 = q.2 := by
  induction placed generalizing next with
  | nil => exact nofun
  | cons q rest ih =>
    intro row hrow
    rcases List.mem_cons.mp hrow with rfl | hrow
    · exact ⟨q, List.mem_cons_self, Nat.sub_le _ _, rfl⟩
    · obtain ⟨q', hq', h⟩ := ih row hrow
      exact ⟨q', List.mem_cons_of_mem q hq', h⟩

/-! ## The table -/

/-- The bytes of frames, each behind its gap. -/
def rowBytes (rows : List (Nat × FrameKind Nat)) : List UInt8 :=
  rows.flatMap fun (delta, kind) => kind.toBytes delta

/-- Writing succeeds on increasing offsets if every label is found. -/
theorem encodeFrom_eq_ok (hg : Totals g f) (next : Nat) (written : List (List UInt8))
    (placed : List (Nat × FrameKind π)) (bytes : List UInt8) :
    encodeFrom f next written placed = .ok bytes ↔
      Ascending next placed ∧ (∀ q ∈ placed, ∀ p ∈ q.2.positions, f p = .ok (g p)) ∧
        written.reverse.flatten ++ rowBytes (gaps next (placed.map fun q => (q.1, q.2.map g))) = bytes := by
  induction placed generalizing next written with
  | nil => simp [encodeFrom, Ascending, gaps, rowBytes]
  | cons q rest ih =>
    obtain ⟨offset, kind⟩ := q
    rw [encodeFrom, Ascending, List.forall_mem_cons]
    by_cases hlt : offset < next
    · rw [if_pos hlt]
      exact iff_of_false nofun fun h => absurd h.1.1 (Nat.not_le.mpr hlt)
    · rw [if_neg hlt]
      cases hbytes : kind.encode f (offset - next) with
      | error e =>
        -- a kind is refused only for a label without an offset
        refine iff_of_false nofun fun h => ?_
        rw [(FrameKind.encode_eq_ok hg).mpr ⟨h.2.1.1, rfl⟩] at hbytes
        cases hbytes
      | ok row =>
        obtain ⟨hfound, rfl⟩ := (FrameKind.encode_eq_ok hg).mp hbytes
        dsimp only
        rw [ih]
        simp only [List.map_cons, gaps, rowBytes, List.flatMap_cons, List.reverse_cons, List.flatten_append,
          List.flatten_cons, List.flatten_nil, List.append_nil, List.append_assoc]
        constructor
        · rintro ⟨hascending, hrest, hwritten⟩
          exact ⟨⟨Nat.le_of_not_lt hlt, hascending⟩, ⟨hfound, hrest⟩, hwritten⟩
        · rintro ⟨⟨-, hascending⟩, ⟨-, hrest⟩, hwritten⟩
          exact ⟨hascending, hrest, hwritten⟩

/-- Frames in the order of their offsets. -/
def sorted (g : π → Nat) (frames : List (Frame π)) : List (Frame π) :=
  frames.mergeSort fun a b => g a.position ≤ g b.position

/-- A frame's offset and its kind. -/
def located (g : π → Nat) (fr : Frame π) : Nat × FrameKind π :=
  (g fr.position, fr.kind)

theorem mem_sorted {frames : List (Frame π)} {fr : Frame π} : fr ∈ sorted g frames ↔ fr ∈ frames :=
  List.mem_mergeSort

theorem length_sorted (g : π → Nat) (frames : List (Frame π)) : (sorted g frames).length = frames.length :=
  List.length_mergeSort frames

theorem map_located_sorted (g : π → Nat) (frames : List (Frame π)) :
    (sorted g frames).map (located g) = (frames.map (located g)).mergeSort fun a b => a.1 ≤ b.1 :=
  List.map_mergeSort fun _ _ _ _ => rfl

/-- **The table of frames**: the frames in the order of their offsets, which are all different, each behind the gap
to the one before. -/
theorem encodeTable_eq_ok (hg : Totals g f) {frames : List (Frame π)} {bytes : List UInt8} :
    encodeTable f frames = .ok bytes ↔
      (∀ fr ∈ frames, ∀ p ∈ fr.positions, f p = .ok (g p)) ∧ Ascending 0 ((sorted g frames).map (located g)) ∧
        count16 frames.length ++ rowBytes (gaps 0 ((sorted g frames).map fun fr => (g fr.position, fr.kind.map g))) =
          bytes := by
  have hlocate : ∀ (fr : Frame π) (q : Nat × FrameKind π),
      (do return (← f fr.position, fr.kind) : Except Defect (Nat × FrameKind π)) = .ok q ↔
        f fr.position = .ok (g fr.position) ∧ located g fr = q := by
    intro fr q
    rw [hg.bind_eq_ok]
    simp [located, pure, Except.pure]
  have hlocated : Totals (located g) (fun fr => (do return (← f fr.position, fr.kind) : Except Defect _)) :=
    fun fr q h => ((hlocate fr q).mp h).2
  have hrows : Totals (fun placed => rowBytes (gaps 0 (placed.map fun q : Nat × FrameKind π => (q.1, q.2.map g))))
      (encodeFrom f 0 []) := fun placed bytes h => ((encodeFrom_eq_ok hg 0 [] placed bytes).mp h).2.2
  have hkinds : (∀ q ∈ (sorted g frames).map (located g), ∀ p ∈ q.2.positions, f p = .ok (g p)) ↔
      ∀ fr ∈ frames, ∀ p ∈ fr.kind.positions, f p = .ok (g p) := by
    simp only [List.forall_mem_map, mem_sorted, located]
  -- frames are located first and sorted then; sorting first comes to the same
  have hmap : ((sorted g frames).map (located g)).map (fun q => (q.1, q.2.map g)) =
      (sorted g frames).map fun fr => (g fr.position, fr.kind.map g) := List.map_map
  rw [encodeTable, hlocated.mapM.bind_eq_ok, hlocated.mapM_eq_ok, ← map_located_sorted, hrows.bind_eq_ok,
    encodeFrom_eq_ok hg, hkinds, hmap, List.length_map]
  simp only [hlocate, and_true, List.reverse_nil, List.flatten_nil, List.nil_append]
  simp only [pure, Except.pure, Except.ok.injEq]
  constructor
  · rintro ⟨hpositions, ⟨hascending, htypes⟩, hbytes⟩
    refine ⟨fun fr hfr p hp => ?_, hascending, hbytes⟩
    rcases List.mem_append.mp hp with hp | hp
    · exact htypes fr hfr p hp
    · rw [List.mem_singleton.mp hp]
      exact hpositions fr hfr
  · rintro ⟨hfound, hascending, hbytes⟩
    exact ⟨fun fr hfr => hfound fr hfr _ fr.position_mem,
      ⟨hascending, fun fr hfr p hp => hfound fr hfr p (List.mem_append_left _ hp)⟩, hbytes⟩

/-- **The table of frames reads back**, as frames over offsets. -/
theorem parse_table {frames : List (Frame π)} (hascending : Ascending 0 (frames.map (located g)))
    (hcount : frames.length < 65536) (hshaped : ∀ fr ∈ frames, fr.kind.Shaped)
    (hoffsets : ∀ fr ∈ frames, ∀ p ∈ fr.positions, g p < 65536) :
    place 0 <$> Decoder.parse decodeTable
      (count16 frames.length ++ rowBytes (gaps 0 (frames.map fun fr => (g fr.position, fr.kind.map g)))) =
        .ok (frames.map (·.map g)) := by
  have hascending' : Ascending 0 (frames.map fun fr => (g fr.position, fr.kind.map g)) := by
    have := (ascending_map (FrameKind.map g)).mpr hascending
    rwa [List.map_map] at this
  generalize hplaced : (frames.map fun fr => (g fr.position, fr.kind.map g)) = placed at hascending' ⊢
  have hlength : (gaps 0 placed).length = frames.length := by
    rw [length_gaps, ← hplaced, List.length_map]
  have hrow : ∀ row ∈ gaps 0 placed, Reads FrameKind.decode (row.2.toBytes row.1) row := by
    rintro ⟨delta, kind⟩ hrow
    -- a gap is no wider than the offset behind it, so it can be written
    obtain ⟨q, hq, hle, hkind⟩ := exists_of_mem_gaps _ hrow
    rw [← hplaced] at hq
    obtain ⟨fr, hfr, rfl⟩ := List.mem_map.mp hq
    obtain rfl : kind = fr.kind.map g := hkind
    have hposition := hoffsets fr hfr fr.position fr.position_mem
    refine FrameKind.reads_kind (Nat.lt_of_le_of_lt hle hposition)
      ((FrameKind.shaped_map g fr.kind).mpr (hshaped fr hfr)) ?_
    intro o ho
    rw [FrameKind.positions_map] at ho
    obtain ⟨p, hp, rfl⟩ := List.mem_map.mp ho
    exact hoffsets fr hfr p (List.mem_append_left _ hp)
  have hread := reads_counted (hlength ▸ hcount) hrow
  rw [hlength] at hread
  have hplace : place 0 (gaps 0 placed) = frames.map (·.map g) := by
    rw [place_gaps hascending', ← hplaced, List.map_map]
    rfl
  rw [decodeTable, rowBytes, hread.parse]
  exact congrArg Except.ok hplace

end Frame

end ClassWeaver
