import ClassWeaver.Proofs.Code.Acceptance
import ClassWeaver.Proofs.Code.Refusal
import ClassWeaver.Proofs.Code.Relabeling

/-!
# Writing what was read

A body that was read and is written again without an edit may change its bytes: forms are shortened, attributes put in
order, empty tables left out. It changes them once. The new payload is read as a body that is written as this payload,
without a further name for the pool.

## Contents

* `Legible.renames` — a payload that was written is read as the body under other labels.
* `ordered_frames_toBody` — the frames of a body that was read stand one behind the other.
* `reencode_of_decode` — why writing fails, and what it gives otherwise.
-/

namespace ClassWeaver

open ConstantPool (Addition addUtf8)

namespace Listing

variable {pool : ConstantPool} {l : Listing}

/-- Between two offsets that are mentioned there is an instruction. -/
theorem number_lt_of_mention (hl : l.Accepted pool) (hstray : l.stray? = none) {o o' : Nat} (ho : o ∈ l.mentions)
    (ho' : o' ∈ l.mentions) (hlt : o < o') : l.number o < l.number o' := by
  -- the first of the two is in front of the end, so an instruction starts there
  have hstart : o ∈ l.steps.map Prod.fst := by
    refine (List.mem_append.mp (mem_boundaries_of_stray? hstray ho)).resolve_right fun hend => ?_
    rw [List.mem_singleton] at hend
    have hsorted := hl.sorted
    rw [List.pairwise_append] at hsorted
    rcases List.mem_append.mp (mem_boundaries_of_stray? hstray ho') with ho' | ho'
    · have := hsorted.2.2 _ ho' l.length (List.mem_singleton_self _)
      omega
    · rw [List.mem_singleton] at ho'
      omega
  exact number_lt hstart hlt

/-- **The frames of a body that was read** stand one behind the other. -/
theorem ordered_frames_toBody (hl : l.Accepted pool) (hstray : l.stray? = none) :
    (l.toBody.frames.getD []).Pairwise fun f g =>
      ∃ m n, l.toBody.position? f.position = some m ∧ l.toBody.position? g.position = some n ∧ m < n := by
  rw [frames_toBody, List.pairwise_map]
  refine (frames_accepted hl).2.1.imp_of_mem ?_
  intro f g hf hg hlt
  have hmention : ∀ fr ∈ l.frames.getD [], fr.position ∈ l.mentions := by
    intro fr hfr
    exact mem_mentions_of_mem_used (mem_used_of_frame hfr fr.position_mem)
  have hf := hmention f hf
  have hg := hmention g hg
  exact ⟨_, _, position?_labelOf hl hstray hf, position?_labelOf hl hstray hg, number_lt_of_mention hl hstray hf hg hlt⟩

/-- They stand at different places. -/
theorem pairwise_frames_toBody (hl : l.Accepted pool) (hstray : l.stray? = none) :
    (l.toBody.frames.getD []).Pairwise fun f g => l.toBody.position? f.position ≠ l.toBody.position? g.position := by
  refine (ordered_frames_toBody hl hstray).imp ?_
  rintro f g ⟨m, n, hm, hn, hlt⟩
  rw [hm, hn]
  exact fun heq => Nat.ne_of_lt hlt (Option.some.inj heq)

end Listing

namespace MethodBody

variable {b : MethodBody} {l : Layout} {xs : List (Instruction Label × Bool)} {p q : ConstantPool} {info : List UInt8}

/-- The listing of a body has no stray offset. -/
theorem stray?_listing (hl : l.Settled b.instructions xs) (hfound : ∀ label ∈ b.uses, l.Found label) :
    (b.listing l).stray? = none := by
  apply Listing.stray?_eq_none
  intro offset hoffset
  rw [(mentions_listing hl).mem_iff] at hoffset
  obtain ⟨label, hlabel, rfl⟩ := List.mem_map.mp hoffset
  have hmem := Layout.mem_offsets_listed (g := l.resolve).mpr (hl.boundary_of_offsetOf (hfound label hlabel)).1
  exact (List.mem_append.mp hmem).imp_right List.mem_singleton.mp

/-- **A payload that was written** is read as the body under other labels. -/
theorem Legible.renames (hb : b.Legible p) (hp : p.count ≤ 65535) {payload : List UInt8}
    (h : b.encode p = (.ok payload, q)) : ∃ b' name, MethodBody.decode q payload = .ok b' ∧ b.Renames name b' := by
  obtain ⟨l, xs, hl, hfound, hascending, hlisting⟩ := hb.decode_listing hp h
  refine ⟨(b.listing l).toBody, b.nameOf l, ?_, renames_toBody hl hfound hascending⟩
  rw [MethodBody.decode, hlisting]
  simp only [bind, Except.bind, stray?_listing hl hfound]
  rfl

/-- What is read is a listing without stray offsets. -/
theorem decode_eq_ok (h : MethodBody.decode p info = .ok b) :
    ∃ l, Listing.decode p info = .ok l ∧ l.Accepted p ∧ l.stray? = none ∧ b = l.toBody := by
  obtain ⟨l, hl, h⟩ := except_bind_eq_ok.mp h
  split at h
  · cases h
  · rename_i hstray
    cases h
    exact ⟨l, hl, Listing.accepted_of_decode hl, hstray, rfl⟩

/-- **Writing what was read** fails only for size: of the code array, of the way from a conditional jump to its target,
or of the pool. What is written otherwise is read as a body that is written as the same payload and leaves the pool as
it is. The length of the code has to be one that can be counted in 32 bits, the lines have to fit into one table, and
the frames into one attribute. -/
theorem reencode_of_decode (hp : p.count ≤ 65535) (hdecode : MethodBody.decode p info = .ok b)
    (hsize : ∀ l, b.layout = .ok l → l.span < 4294967296) (hlines : b.lines.length ≤ 65535)
    (hframes : ∀ l, b.layout = .ok l → ∀ bytes, Frame.encodeTable l.offsetOf (b.frames.getD []) = .ok bytes →
      bytes.length < 4294967296) :
    (∀ e q, b.encode p = (.error e, q) →
      (∃ size, 65535 < size ∧ e = .codeTooLarge size) ∨
        (∃ distance, fitsInWord distance = false ∧ e = .branchOverflow distance) ∨ e = .poolOverflow) ∧
      ∀ payload q, b.encode p = (.ok payload, q) →
        ∃ b', MethodBody.decode q payload = .ok b' ∧ b'.encode q = (.ok payload, q) := by
  obtain ⟨l, -, haccepted, hstray, rfl⟩ := decode_eq_ok hdecode
  constructor
  · intro e q h
    exact encode_eq_error hsize (fun _ => Listing.position?_of_mem_uses haccepted hstray)
      (Listing.pairwise_frames_toBody haccepted hstray) h
  · intro payload q h
    have hb := Listing.legible_toBody haccepted hstray hsize hlines hframes
    obtain ⟨b', name, hdecode', hrenames⟩ := hb.renames hp h
    exact ⟨b', hdecode', hrenames.encode_eq_ok hsize h⟩

/-! ## A body in its long forms -/

/-- A jump in its long form and a load in its wide form, with a line and a frame behind them. -/
def spacious : List UInt8 :=
  [0, 1, 0, 2, 0, 0, 0, 11, 200, 0, 0, 0, 5, 196, 21, 0, 1, 87, 177, 0, 0, 0, 2, 0, 1, 0, 0, 0, 6, 0, 1, 0, 5, 0, 10,
    0, 2, 0, 0, 0, 3, 0, 1, 5]

/-- The same in the short forms. -/
def tight : List UInt8 :=
  [0, 1, 0, 2, 0, 0, 0, 6, 167, 0, 3, 27, 87, 177, 0, 0, 0, 2, 0, 1, 0, 0, 0, 6, 0, 1, 0, 3, 0, 10, 0, 2, 0, 0, 0, 3,
    0, 1, 3]

/-- The pool of `spacious` and `tight`. -/
def spaciousPool : ConstantPool :=
  texts ["LineNumberTable", "StackMapTable"]

/-- The body that is read from `spacious`. -/
def spaciousBody : MethodBody where
  maxStack := 1
  maxLocals := 2
  instructions := [.jump Opcode.goto ⟨0⟩, .mark ⟨0⟩, .localVar Opcode.iload 1, .simple 0x57, .simple Opcode.voidReturn]
  handlers := []
  lines := [⟨⟨0⟩, 10⟩]
  variableRows := []
  variableTypes := []
  frames := some [⟨⟨0⟩, .same⟩]
  attributes := []
  nextLabel := 1

/-- Where the instructions of `spaciousBody` are. -/
def spaciousLayout : Layout :=
  .of spaciousBody.instructions (List.replicate 5 false)

theorem decode_spacious : MethodBody.decode spaciousPool spacious = .ok spaciousBody :=
  rfl

theorem encodeTable_spacious :
    Frame.encodeTable spaciousLayout.offsetOf (spaciousBody.frames.getD []) = .ok [0, 1, 3] := by
  have hsorted : Frame.sorted spaciousLayout.resolve (spaciousBody.frames.getD []) = [⟨⟨0⟩, .same⟩] := by
    simp [Frame.sorted, spaciousBody]
  refine (Frame.encodeTable_eq_ok spaciousLayout.totals_resolve).mpr ⟨?_, ?_, ?_⟩
  · simp [spaciousBody, Frame.positions, FrameKind.positions]
    exact rfl
  · rw [hsorted]
    exact ⟨Nat.zero_le _, trivial⟩
  · rw [hsorted]
    rfl

theorem encode_spacious : spaciousBody.encode spaciousPool = (.ok tight, spaciousPool) := by
  have hlinesName : addUtf8 "LineNumberTable" spaciousPool = (.ok 1, spaciousPool) :=
    addUtf8_texts_again List.not_mem_nil (by decide)
  have hframesName : addUtf8 "StackMapTable" spaciousPool = (.ok 2, spaciousPool) :=
    @addUtf8_texts_again _ ["LineNumberTable"] [] (by simp) (by decide)
  have hlines : tableAttribute "LineNumberTable" spaciousLayout.lineBytes spaciousBody.lines spaciousPool =
      (.ok [⟨1, [0, 1, 0, 3, 0, 10]⟩], spaciousPool) :=
    Addition.lift_bind_eq_ok.mpr ⟨_, rfl, Addition.bind_eq_ok.mpr ⟨_, _, hlinesName, rfl⟩⟩
  have hframes : frameAttribute spaciousLayout (spaciousBody.frames.getD []) spaciousPool =
      (.ok [⟨2, [0, 1, 3]⟩], spaciousPool) := by
    rw [frameAttribute, encodeTable_spacious]
    exact Addition.lift_bind_eq_ok.mpr ⟨_, rfl, Addition.bind_eq_ok.mpr ⟨_, _, hframesName, rfl⟩⟩
  have hattributes : spaciousBody.encodeAttributes spaciousLayout spaciousPool =
      (.ok [⟨1, [0, 1, 0, 3, 0, 10]⟩, ⟨2, [0, 1, 3]⟩], spaciousPool) :=
    Addition.bind_eq_ok.mpr ⟨_, _, hlines, Addition.bind_eq_ok.mpr ⟨_, _, rfl, Addition.bind_eq_ok.mpr ⟨_, _, rfl,
      Addition.bind_eq_ok.mpr ⟨_, _, hframes, rfl⟩⟩⟩⟩
  refine Addition.lift_bind_eq_ok.mpr ⟨spaciousLayout, rfl, ?_⟩
  rw [if_neg (by decide)]
  exact Addition.lift_bind_eq_ok.mpr ⟨_, rfl, Addition.lift_bind_eq_ok.mpr ⟨_, rfl,
    Addition.bind_eq_ok.mpr ⟨_, _, hattributes, rfl⟩⟩⟩

/-- The short forms are written in the place of the long ones, and are written again. -/
theorem reencode_spacious :
    spaciousPool.count ≤ 65535 ∧ MethodBody.decode spaciousPool spacious = .ok spaciousBody ∧
      spaciousBody.encode spaciousPool = (.ok tight, spaciousPool) ∧
      ∃ b', MethodBody.decode spaciousPool tight = .ok b' ∧ b'.encode spaciousPool = (.ok tight, spaciousPool) := by
  have hcount : spaciousPool.count ≤ 65535 := by decide
  have hframes : ∀ l, spaciousBody.layout = .ok l → ∀ bytes,
      Frame.encodeTable l.offsetOf (spaciousBody.frames.getD []) = .ok bytes → bytes.length < 4294967296 := by
    intro l hl bytes hbytes
    cases hl
    cases encodeTable_spacious.symm.trans hbytes
    decide
  have hsize : ∀ l, spaciousBody.layout = .ok l → l.span < 4294967296 := by
    intro l hl
    cases hl
    decide
  exact ⟨hcount, decode_spacious, encode_spacious,
    (reencode_of_decode hcount decode_spacious hsize (by decide) hframes).2 tight _ encode_spacious⟩

end MethodBody

end ClassWeaver
