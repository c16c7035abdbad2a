import ClassWeaver.Proofs.Code.Reencoding
import ClassWeaver.Proofs.Code.Tiling

/-!
# Bodies that decoding returns

Labels are given to offsets as they are met, from jumps to the types of frames, before it is known where instructions
start; marks are put in afterwards. A payload is accepted only if each of the offsets turns out to be a boundary, and
then there is a mark for each: the body that comes out refers to nothing outside itself. What attributes hold that are
carried along, or left out, is not looked at, so it refers to nothing here.

## Contents

* `mem_marks_toBody_iff`, `mem_marks_toBody_iff_lt` — the labels that are placed, as those of offsets and as numbers.
* `MethodBody.handedOut` — labels that are asked for later.
* `MethodBody.Closed` — bodies whose labels are all placed, once each, and whose parts can be written.
* `MethodBody.decode_closed` — decoding tiles the code array and returns a closed body.
-/

namespace ClassWeaver

open Bytes

namespace Listing

variable {pool : ConstantPool} {l : Listing} {label : Label}

/-! ## The labels that are placed -/

/-- The labels that are placed are those of the offsets that are mentioned. -/
theorem mem_marks_toBody_iff (hl : l.Accepted pool) (hstray : l.stray? = none) :
    label ∈ l.toBody.marks ↔ ∃ o ∈ l.mentions, labelOf l.numbering o = label := by
  have hnumbers := l.numbers_numbering
  have hmarks : l.toBody.marks = (l.steps.map Prod.fst ++ [l.length]).filterMap fun o : Nat => l.numbering[o]? :=
    marks_marked l.numbering (fun s hs => (hl.instructions s hs).1) l.length
  rw [hmarks, List.mem_filterMap]
  constructor
  · rintro ⟨o, -, ho⟩
    have hmention : o ∈ l.mentions :=
      (hnumbers.mem o).mp (Std.TreeMap.mem_iff_isSome_getElem?.mpr (by rw [ho]; rfl))
    rw [hnumbers.getElem?_labelOf hmention] at ho
    exact ⟨o, hmention, Option.some.inj ho⟩
  · rintro ⟨o, ho, rfl⟩
    exact ⟨o, mem_boundaries_of_stray? hstray ho, hnumbers.getElem?_labelOf ho⟩

/-- Their numbers are those below the number of the next label. -/
theorem mem_marks_toBody_iff_lt (hl : l.Accepted pool) (hstray : l.stray? = none) :
    label ∈ l.toBody.marks ↔ label.id < l.toBody.nextLabel := by
  have hnumbers := l.numbers_numbering
  rw [mem_marks_toBody_iff hl hstray]
  constructor
  · rintro ⟨o, ho, rfl⟩
    exact hnumbers.lt o _ (hnumbers.getElem?_labelOf ho)
  · intro hlt
    obtain ⟨o, ho⟩ := hnumbers.surjective label.id hlt
    have hmention : o ∈ l.mentions :=
      (hnumbers.mem o).mp (Std.TreeMap.mem_iff_isSome_getElem?.mpr (by rw [ho]; rfl))
    rw [hnumbers.getElem?_labelOf hmention] at ho
    exact ⟨o, hmention, Option.some.inj ho⟩

/-- What the body refers to is placed. -/
theorem mem_marks_of_mem_uses (hl : l.Accepted pool) (hstray : l.stray? = none) (h : label ∈ l.toBody.uses) :
    label ∈ l.toBody.marks := by
  rw [uses_toBody hl] at h
  obtain ⟨o, ho, rfl⟩ := List.mem_map.mp h
  exact (mem_marks_toBody_iff hl hstray).mpr ⟨o, mem_mentions_of_mem_used ho, rfl⟩

/-- Different labels are placed at different positions. -/
theorem eq_of_position?_eq (hl : l.Accepted pool) (hstray : l.stray? = none) {other : Label}
    (h : label ∈ l.toBody.marks) (h' : other ∈ l.toBody.marks)
    (heq : l.toBody.position? label = l.toBody.position? other) : label = other := by
  obtain ⟨o, ho, rfl⟩ := (mem_marks_toBody_iff hl hstray).mp h
  obtain ⟨o', ho', rfl⟩ := (mem_marks_toBody_iff hl hstray).mp h'
  rw [position?_labelOf hl hstray ho, position?_labelOf hl hstray ho', Option.some.injEq] at heq
  -- were one offset smaller, there would be an instruction in front of the other only
  rcases Nat.lt_trichotomy o o' with hlt | rfl | hlt
  · exact absurd heq (Nat.ne_of_lt (number_lt_of_mention hl hstray ho ho' hlt))
  · rfl
  · exact absurd heq.symm (Nat.ne_of_lt (number_lt_of_mention hl hstray ho' ho hlt))

end Listing

namespace MethodBody

open Listing (labelOf)

variable {b : MethodBody} {pool : ConstantPool} {info : List UInt8}

/-! ## Closed bodies -/

/-- The label that is handed out after `n` others. -/
def handedOut (b : MethodBody) : Nat → Label
  | 0 => b.newLabel.1
  | n + 1 => b.newLabel.2.handedOut n

/-- Labels are handed out in the order of their numbers. -/
theorem handedOut_eq (b : MethodBody) (n : Nat) : b.handedOut n = ⟨b.nextLabel + n⟩ := by
  induction n generalizing b with
  | zero => rfl
  | succ n ih =>
    rw [handedOut, ih]
    exact congrArg Label.mk (Nat.add_right_comm b.nextLabel 1 n)

/-- A body whose labels are numbered without a gap and are all placed, each once and none at the position of another,
and whose instructions and frames can be written. -/
structure Closed (b : MethodBody) : Prop where
  labels : ∀ label, label ∈ b.marks ++ b.uses ↔ label.id < b.nextLabel
  once : ∀ label : Label, label.id < b.nextLabel → b.marks.count label = 1
  apart : ∀ label ∈ b.marks, ∀ other ∈ b.marks, b.position? label = b.position? other → label = other
  placed : ∀ label ∈ b.uses, label ∈ b.marks
  instructions : ∀ i ∈ b.instructions, i.Shaped
  frames : ∀ fr ∈ b.frames.getD [], fr.kind.Shaped
  ascending : (b.frames.getD []).Pairwise fun f g =>
    ∃ m n, b.position? f.position = some m ∧ b.position? g.position = some n ∧ m < n
  /-- Labels that are handed out later are new, and different. -/
  fresh : ∀ n, b.handedOut n ∉ b.marks ++ b.uses ∧ ∀ m < n, b.handedOut m ≠ b.handedOut n

/-- **The body of an accepted listing** is closed. -/
theorem closed_toBody {l : Listing} (hl : l.Accepted pool) (hstray : l.stray? = none) : l.toBody.Closed := by
  have hlabels : ∀ label, label ∈ l.toBody.marks ++ l.toBody.uses ↔ label.id < l.toBody.nextLabel := by
    intro label
    rw [List.mem_append, ← Listing.mem_marks_toBody_iff_lt hl hstray]
    exact ⟨fun h => h.elim id (Listing.mem_marks_of_mem_uses hl hstray), .inl⟩
  have hnodup : l.toBody.marks.Nodup :=
    l.numbers_numbering.nodup_marks (fun s hs => (hl.instructions s hs).1) hl.sorted
  -- a label is used only where it is also placed, so those that occur are those that are placed
  refine ⟨hlabels, fun label hlt => ?_, fun label h other h' => Listing.eq_of_position?_eq hl hstray h h',
    fun label => Listing.mem_marks_of_mem_uses hl hstray, Listing.shaped_toBody hl, ?_,
    Listing.ordered_frames_toBody hl hstray, fun n => ⟨fun hmem => ?_, fun m hmn heq => ?_⟩⟩
  · rw [hnodup.count, if_pos ((Listing.mem_marks_toBody_iff_lt hl hstray).mpr hlt)]
  · rw [Listing.frames_toBody, List.forall_mem_map]
    exact fun fr hfr => (FrameKind.shaped_map _ _).mpr ((Listing.frames_accepted hl).2.2 fr hfr)
  · rw [hlabels, handedOut_eq] at hmem
    exact Nat.not_lt.mpr (Nat.le_add_right _ _) hmem
  · rw [handedOut_eq, handedOut_eq, Label.mk.injEq] at heq
    omega

/-! ## Decoding -/

/-- **A payload that is accepted** refers only to offsets where an instruction starts or the code ends, its instructions
tile the code array, and the body that is returned is closed: it consists of these instructions, and the label of an
offset stands in front of the instruction there. -/
theorem decode_closed (h : MethodBody.decode pool info = .ok b) :
    ∃ raw l, Decoder.parse RawBody.decode info = .ok raw ∧ Listing.decode pool info = .ok l ∧
      Tiles raw.code.length 0 raw.code l.steps ∧
      (∀ o ∈ l.mentions, o ∈ l.steps.map Prod.fst ∨ o = raw.code.length) ∧
      b.unmarked = l.steps.map (fun s => s.2.map (labelOf l.numbering)) ∧
      b.uses = l.used.map (labelOf l.numbering) ∧
      (∀ o ∈ l.mentions, b.position? (labelOf l.numbering o) = some (l.steps.countP (·.1 < o))) ∧ b.Closed := by
  obtain ⟨l, hlisting, hl, hstray, rfl⟩ := decode_eq_ok h
  obtain ⟨raw, hraw, hparts⟩ := except_bind_eq_ok.mp hlisting
  obtain ⟨steps, hsteps, hparts⟩ := except_bind_eq_ok.mp hparts
  obtain ⟨-, -, hparts⟩ := except_bind_eq_ok.mp hparts
  obtain ⟨attributes, -, hparts⟩ := except_bind_eq_ok.mp hparts
  have hlength : l.length = raw.code.length := by cases hparts; rfl
  have htiles : Tiles raw.code.length 0 raw.code l.steps := by cases hparts; exact tiles_decodeSteps hsteps
  refine ⟨raw, l, hraw, hlisting, htiles, fun o ho => ?_, Listing.unmarked_toBody hl, Listing.uses_toBody hl,
    fun o ho => Listing.position?_labelOf hl hstray ho, closed_toBody hl hstray⟩
  exact (List.mem_append.mp (Listing.mem_boundaries_of_stray? hstray ho)).imp_right
    fun hend => (List.mem_singleton.mp hend).trans hlength

/-- A jump in its long form, a load in its wide form, a line and a frame. -/
theorem decode_closed_spacious :
    MethodBody.decode spaciousPool spacious = .ok spaciousBody ∧ spaciousBody.Closed ∧
      ∃ raw l, Decoder.parse RawBody.decode spacious = .ok raw ∧ Listing.decode spaciousPool spacious = .ok l ∧
        Tiles raw.code.length 0 raw.code l.steps := by
  obtain ⟨raw, l, hraw, hlisting, htiles, -, -, -, -, hclosed⟩ := decode_closed decode_spacious
  exact ⟨decode_spacious, hclosed, raw, l, hraw, hlisting, htiles⟩

end MethodBody

end ClassWeaver
