import ClassWeaver.Proofs.Bytes.Truncation
import ClassWeaver.Proofs.ClassFile.AnnouncedSlots

/-!
# Truncated class files

A class file says of each of its parts how long it is, so it says where it ends. A file that was cut off anywhere is
reported as truncated, at an offset inside what is left of it; a file with bytes behind it is reported as such. No
offset of a truncation lies behind the end of the file that was read.

## Contents

* `sequential_constant`, `sequential_pool`, `sequential_body` — the parts of a class file are read from front to back.
* `StopsWith` — reading gives up with so many bytes left.
* `ofBytes_delimited` — files that end too early or too late.
-/

namespace ClassWeaver

open Bytes Decoder

/-! ## The parts of a class file -/

theorem Constant.sequential_pair (make : UInt16 → UInt16 → Constant) : Sequential (pair make) :=
  sequential_u2.bind fun _ => sequential_u2.bind fun _ => sequential_pure _

theorem Constant.sequential_utf8 : Sequential decodeUtf8 := by
  refine sequential_u2.bind fun length => (sequential_run length.toNat).bind fun raw => ?_
  cases Utf8Constant.ofRaw raw with
  | ok value => exact sequential_pure (utf8 value)
  | error e => exact sequential_stop

theorem Constant.sequential_fields (tag : UInt8) : Sequential (decodeFields tag) := by
  unfold decodeFields
  -- one case for each tag, in the order of the tags
  split
  · exact sequential_utf8
  · exact sequential_i4.map integer
  · exact sequential_u4.map float
  · exact sequential_u8.map _
  · exact sequential_u8.map double
  · exact sequential_u2.map classRef
  · exact sequential_u2.map string
  · exact sequential_pair fieldRef
  · exact sequential_pair methodRef
  · exact sequential_pair interfaceMethodRef
  · exact sequential_pair nameAndType
  · exact sequential_u1.bind fun _ => sequential_u2.bind fun _ => sequential_pure _
  · exact sequential_u2.map methodType
  · exact sequential_pair dynamic
  · exact sequential_pair invokeDynamic
  · exact sequential_u2.map moduleRef
  · exact sequential_u2.map packageRef
  · exact sequential_stop

theorem sequential_constant : Sequential Constant.decode :=
  sequential_u1.bind Constant.sequential_fields

/-- One constant more is a step of its own, after which fewer slots are wanted. -/
theorem ConstantPool.fill_eq_bind (slots : Array Constant) (n : Nat) :
    fill slots (n + 1) = Constant.decode >>= fun c =>
      if c.isWide then fill ((slots.push c).push .unusable) (n - 1) else fill (slots.push c) n := by
  funext bytes
  rw [fill_succ]
  cases hd : Constant.decode bytes with
  | ok p =>
    rw [bind_of_eq_ok hd]
    dsimp only
    split <;> rfl
  | error e => rw [bind_of_eq_error hd]

theorem ConstantPool.sequential_fill (n : Nat) (slots : Array Constant) : Sequential (fill slots n) := by
  induction n using Nat.strongRecOn generalizing slots with
  | ind n ih =>
    cases n with
    | zero => exact sequential_pure slots
    | succ n =>
      rw [fill_eq_bind]
      refine sequential_constant.bind fun c => ?_
      -- a wide constant fills two slots, so the count can go down by more than one
      split
      · exact ih (n - 1) (by omega) _
      · exact ih n (Nat.lt_succ_self n) _

theorem sequential_pool : Sequential ConstantPool.decode :=
  sequential_u2.bind fun _ => (ConstantPool.sequential_fill _ _).bind fun _ => sequential_pure _

theorem sequential_attribute : Sequential Attribute.decode :=
  sequential_u2.bind fun _ => sequential_sizedRun.bind fun _ => sequential_pure _

theorem sequential_member : Sequential Member.decode :=
  sequential_u2.bind fun _ => sequential_u2.bind fun _ => sequential_u2.bind fun _ =>
    sequential_attribute.counted.bind fun _ => sequential_pure _

namespace ClassFile

theorem sequential_body : Sequential decodeBody :=
  sequential_u2.bind fun _ => sequential_u2.bind fun _ => sequential_pool.bind fun _ => sequential_u2.bind fun _ =>
    sequential_u2.bind fun _ => sequential_u2.bind fun _ => sequential_u2.counted.bind fun _ =>
      sequential_member.counted.bind fun _ => sequential_member.counted.bind fun _ =>
        sequential_attribute.counted.bind fun _ => sequential_pure _

/-! ## Files that end too early or too late -/

/-- Reading a class file gives up with so many bytes left, in the magic number or behind it. -/
def StopsWith (bytes : List UInt8) (left : Nat) : Prop :=
  u4 bytes = .error ⟨left⟩ ∨ ∃ rest, u4 bytes = .ok (magic, rest) ∧ decodeBody rest = .error ⟨left⟩

/-- Where reading gives up is inside the file. -/
theorem StopsWith.left_le {bytes : List UInt8} {left : Nat} (h : StopsWith bytes left) : left ≤ bytes.length := by
  rcases h with h | ⟨rest, hmagic, h⟩
  · exact sequential_u4.left_le h
  · rw [spelled_u4 bytes magic rest hmagic, List.length_append]
    exact Nat.le_add_left_of_le (sequential_body.left_le h)

/-- A class without a name has a constant that is not what it should be. -/
theorem name_eq_error {c : ClassFile} {d : Defect} (h : c.name = .error d) :
    ∃ index expected, d = .badConstant index expected := by
  rw [name, ConstantPool.className] at h
  split at h
  · rename_i text _
    rw [ConstantPool.utf8] at h
    split at h <;> cases h
    exact ⟨text, .utf8, rfl⟩
  · cases h
    exact ⟨c.thisClass, .classRef, rfl⟩

/-- A file is truncated if reading gives up, at the offset where it does. -/
theorem ofBytes_eq_truncated {bytes : List UInt8} {offset : Nat} (h : ofBytes bytes = .error (.truncated offset)) :
    ∃ left, StopsWith bytes left ∧ offset + left = bytes.length := by
  unfold ofBytes at h
  split at h
  · rename_i e hmagic
    cases h
    -- nothing was read, so all bytes are left
    refine ⟨e.left, .inl hmagic, ?_⟩
    unfold u4 at hmagic
    split at hmagic <;> cases hmagic
    exact Nat.zero_add _
  · rename_i found rest hmagic
    split at h
    · cases h
    · rename_i hfound
      obtain rfl : found = magic := Decidable.not_not.mp hfound
      split at h
      · rename_i e hbody
        cases h
        have hstops : StopsWith bytes e.left := .inr ⟨rest, hmagic, hbody⟩
        exact ⟨e.left, hstops, Nat.sub_add_cancel hstops.left_le⟩
      · split at h
        · cases h
        · rename_i hname
          cases h
          obtain ⟨_, _, hdefect⟩ := name_eq_error hname
          cases hdefect
      · cases h

theorem StopsWith.ofBytes_eq {bytes : List UInt8} {left : Nat} (h : StopsWith bytes left) :
    ∃ offset ≤ bytes.length, ofBytes bytes = .error (.truncated offset) := by
  rcases h with h | ⟨rest, hmagic, hbody⟩
  · exact ⟨0, Nat.zero_le _, by simp only [ofBytes, h]⟩
  · refine ⟨bytes.length - left, Nat.sub_le _ _, ?_⟩
    simp only [ofBytes, hmagic, ne_eq, not_true_eq_false, if_false, hbody]

variable {bytes : List UInt8} {c : ClassFile}

/-- **A file that was cut off** is not read to an end. -/
theorem stopsWith_of_prefix (h : ofBytes bytes = .ok c) {front : List UInt8} (hfront : front <+: bytes)
    (hne : front ≠ bytes) : ∃ left, StopsWith front left := by
  obtain ⟨rest, hmagic, hbody, -⟩ := ofBytes_eq_ok.mp h
  cases hfound : u4 front with
  | error e => exact ⟨e.left, .inl hfound⟩
  | ok p =>
    -- the cut is behind the magic number
    obtain ⟨missing, rfl⟩ := hfront
    have hwhole := sequential_u4.covers front p.1 p.2 hfound missing
    rw [hmagic] at hwhole
    obtain ⟨hp, rfl⟩ := Prod.mk.inj (Except.ok.inj hwhole)
    have hcut : p.2 ≠ p.2 ++ missing := by
      intro hnone
      have hmissing : missing = [] := List.append_right_eq_self.mp hnone.symm
      exact hne (by rw [hmissing, List.append_nil])
    obtain ⟨e, he, -⟩ := sequential_body.error_of_prefix hbody (List.prefix_append p.2 missing) hcut
    exact ⟨e.left, .inr ⟨p.2, by rw [hfound, hp], he⟩⟩

/-- **A file with bytes behind it** is read to its end, and these are reported. -/
theorem ofBytes_append (h : ofBytes bytes = .ok c) {more : List UInt8} (hmore : more ≠ []) :
    ofBytes (bytes ++ more) = .error (.malformed (.trailingBytes more.length)) := by
  obtain ⟨rest, hmagic, hbody, -⟩ := ofBytes_eq_ok.mp h
  have hmagic' := sequential_u4.covers bytes magic rest hmagic more
  have hbody' := sequential_body.covers rest c [] hbody more
  obtain ⟨b, behind, rfl⟩ := List.exists_cons_of_ne_nil hmore
  simp only [ofBytes, hmagic', ne_eq, not_true_eq_false, if_false, hbody', List.nil_append]

/-- **Class files delimit themselves.** A file that is accepted is reported as truncated, at an offset inside of what is
left, when bytes are missing at its end, and as malformed when there are more. Whatever the bytes are, the offset of a
truncation is the length less what is left there, and never more is left than there was. -/
theorem ofBytes_delimited (bytes : List UInt8) :
    (∀ c, ofBytes bytes = .ok c →
      (∀ front, front <+: bytes → front ≠ bytes →
        ∃ offset ≤ front.length, ofBytes front = .error (.truncated offset)) ∧
      ∀ more, more ≠ [] → ofBytes (bytes ++ more) = .error (.malformed (.trailingBytes more.length))) ∧
    (∀ left, StopsWith bytes left → left ≤ bytes.length) ∧
    ∀ offset, ofBytes bytes = .error (.truncated offset) →
      offset ≤ bytes.length ∧ ∃ left, StopsWith bytes left ∧ offset + left = bytes.length := by
  refine ⟨fun c h => ⟨fun front hfront hne => ?_, fun more => ofBytes_append h⟩, fun left => StopsWith.left_le,
    fun offset h => ?_⟩
  · obtain ⟨left, hstops⟩ := stopsWith_of_prefix h hfront hne
    exact hstops.ofBytes_eq
  · obtain ⟨left, hstops, hoffset⟩ := ofBytes_eq_truncated h
    exact ⟨by omega, left, hstops, hoffset⟩

/-- The class with a long in its last announced slot, cut off in the second half of that long, and with a byte more. -/
theorem delimited_longAtTheEnd :
    (∃ c, ofBytes longAtTheEnd = .ok c) ∧
      (∃ offset ≤ 29, ofBytes (longAtTheEnd.take 29) = .error (.truncated offset)) ∧
      ofBytes (longAtTheEnd ++ [0]) = .error (.malformed (.trailingBytes 1)) ∧
      ofBytes (longAtTheEnd.take 29) = .error (.truncated 27) ∧
      ∃ left, StopsWith (longAtTheEnd.take 29) left ∧ 27 + left = 29 := by
  have hc : ∃ c, ofBytes longAtTheEnd = .ok c := ⟨_, rfl⟩
  have hcut : ofBytes (longAtTheEnd.take 29) = .error (.truncated 27) := rfl
  obtain ⟨c, h⟩ := hc
  obtain ⟨hfront, hmore⟩ := (ofBytes_delimited longAtTheEnd).1 c h
  exact ⟨⟨c, h⟩, hfront _ (List.take_prefix 29 longAtTheEnd) (by decide), hmore [0] (by decide), hcut,
    ((ofBytes_delimited (longAtTheEnd.take 29)).2.2 27 hcut).2⟩

end ClassFile

end ClassWeaver
