import ClassWeaver.ClassFile.Constant
import ClassWeaver.Proofs.Bytes.Reading

/-!
# Texts survive their encoding

Modified UTF-8 goes through two steps, characters to code units and code units to bytes. Reading undoes each of them
on what writing produced, whatever stands behind it, so a text is read back from its bytes. A run of plain bytes is
read without the two steps; the result is the one that they would give. No byte that is written is zero, and none starts
a sequence of four as plain UTF-8 has them.

## Contents

* `unitBytes_bounds` — the bytes that are written.
* `decodeUnits_unitBytes`, `decodeUnits_flatMap` — bytes of code units.
* `textOfUnits_units`, `textOfUnits_flatMap` — code units of characters.
* `decodeByUnits`, `decode_eq` — the shorter way of plain bytes agrees with the longer one.
* `decode_encode_text`, `Utf8Constant.ofRaw_ofText` — a text is read back.
* `decode_encode_bounded` — all of this for one text.
-/

namespace ClassWeaver

open Bytes

namespace ModifiedUtf8

/-! ## Code units and bytes -/

/-- No byte of a code unit is zero, and none is above the first bytes of three. -/
theorem unitBytes_bounds {unit : Nat} (h : unit < 65536) : ∀ b ∈ unitBytes unit, 0 < b.toNat ∧ b.toNat ≤ 0xEF := by
  rw [unitBytes]
  split
  · rw [List.forall_mem_singleton, toNat_ofNat8 (by omega)]
    omega
  · split
    · rw [List.forall_mem_cons, List.forall_mem_singleton, toNat_ofNat8 (by omega), toNat_ofNat8 (by omega)]
      omega
    · rw [List.forall_mem_cons, List.forall_mem_cons, List.forall_mem_singleton, toNat_ofNat8 (by omega),
        toNat_ofNat8 (by omega), toNat_ofNat8 (by omega)]
      omega

theorem decodeUnits_one {a : UInt8} (h : 0 < a.toNat ∧ a.toNat < 0x80) (read : List Nat) (rest : List UInt8) :
    decodeUnits read (a :: rest) = decodeUnits (a.toNat :: read) rest := by
  rw [decodeUnits.eq_def]
  exact if_pos h

theorem decodeUnits_two {a : UInt8} (h : 0xC0 ≤ a.toNat ∧ a.toNat < 0xE0) (b : UInt8) (read : List Nat)
    (rest : List UInt8) :
    decodeUnits read (a :: b :: rest) = decodeUnits ((a.toNat % 32 * 64 + low6 b) :: read) rest := by
  rw [decodeUnits.eq_def]
  exact (if_neg (by omega)).trans (if_pos h)

theorem decodeUnits_three {a : UInt8} (h : 0xE0 ≤ a.toNat ∧ a.toNat < 0xF0) (b c : UInt8) (read : List Nat)
    (rest : List UInt8) :
    decodeUnits read (a :: b :: c :: rest) =
      decodeUnits ((a.toNat % 16 * 4096 + low6 b * 64 + low6 c) :: read) rest := by
  rw [decodeUnits.eq_def]
  exact (if_neg (by omega)).trans ((if_neg (by omega)).trans (if_pos h))

/-- **A code unit is read back from its bytes**, and reading goes on behind them. -/
theorem decodeUnits_unitBytes {unit : Nat} (h : unit < 65536) (read : List Nat) (rest : List UInt8) :
    decodeUnits read (unitBytes unit ++ rest) = decodeUnits (unit :: read) rest := by
  rw [unitBytes]
  split
  · rename_i hone
    have hfirst : (UInt8.ofNat unit).toNat = unit := toNat_ofNat8 (by omega)
    rw [List.singleton_append, decodeUnits_one (by omega), hfirst]
  · split
    · have hfirst : (UInt8.ofNat (0xC0 + unit / 64)).toNat = 0xC0 + unit / 64 := toNat_ofNat8 (by omega)
      have hsecond : (UInt8.ofNat (0x80 + unit % 64)).toNat = 0x80 + unit % 64 := toNat_ofNat8 (by omega)
      have hunit : (0xC0 + unit / 64) % 32 * 64 + (0x80 + unit % 64) % 64 = unit := by omega
      rw [List.cons_append, List.singleton_append, decodeUnits_two (by omega), low6, hfirst, hsecond, hunit]
    · have hfirst : (UInt8.ofNat (0xE0 + unit / 4096)).toNat = 0xE0 + unit / 4096 := toNat_ofNat8 (by omega)
      have hsecond : (UInt8.ofNat (0x80 + unit / 64 % 64)).toNat = 0x80 + unit / 64 % 64 :=
        toNat_ofNat8 (by omega)
      have hthird : (UInt8.ofNat (0x80 + unit % 64)).toNat = 0x80 + unit % 64 := toNat_ofNat8 (by omega)
      have hunit : (0xE0 + unit / 4096) % 16 * 4096 + (0x80 + unit / 64 % 64) % 64 * 64 +
          (0x80 + unit % 64) % 64 = unit := by
        omega
      rw [List.cons_append, List.cons_append, List.singleton_append, decodeUnits_three (by omega), low6, low6, hfirst,
        hsecond, hthird, hunit]

theorem decodeUnits_flatMap {us : List Nat} (h : ∀ u ∈ us, u < 65536) (read : List Nat) :
    decodeUnits read (us.flatMap unitBytes) = some (read.reverse ++ us) := by
  induction us generalizing read with
  | nil => rw [List.flatMap_nil, decodeUnits, List.append_nil]
  | cons u us ih =>
    obtain ⟨hu, hus⟩ := List.forall_mem_cons.mp h
    rw [List.flatMap_cons, decodeUnits_unitBytes hu, ih hus, List.reverse_cons, List.append_assoc]
    rfl

/-! ## Characters and code units -/

theorem toNat_lt_or_lt (c : Char) : c.toNat < 0xD800 ∨ (0xDFFF < c.toNat ∧ c.toNat < 0x110000) :=
  c.valid

/-- The units of a character take two bytes each. -/
theorem unit_lt {c : Char} : ∀ u ∈ units c, u < 65536 := by
  intro u hu
  have hc := toNat_lt_or_lt c
  rw [units] at hu
  split at hu
  · rw [List.mem_singleton] at hu
    omega
  · simp only [List.mem_cons, List.not_mem_nil, or_false] at hu
    omega

theorem isHighSurrogate_eq_false {u : Nat} (h : u < 0xD800 ∨ 0xDFFF < u) : isHighSurrogate u = false := by
  rw [isHighSurrogate, Bool.and_eq_false_iff, decide_eq_false_iff_not, decide_eq_false_iff_not]
  omega

theorem isLowSurrogate_eq_false {u : Nat} (h : u < 0xDC00 ∨ 0xDFFF < u) : isLowSurrogate u = false := by
  rw [isLowSurrogate, Bool.and_eq_false_iff, decide_eq_false_iff_not, decide_eq_false_iff_not]
  omega

/-- **A character is read back from its code units**: it is no surrogate, and two surrogates name it again. -/
theorem textOfUnits_units (c : Char) (read : List Char) (rest : List Nat) :
    textOfUnits read none (units c ++ rest) = textOfUnits (c :: read) none rest := by
  have hc := toNat_lt_or_lt c
  rw [units]
  split
  · rename_i hbasic
    rw [List.singleton_append, textOfUnits, isHighSurrogate_eq_false (by omega), isLowSurrogate_eq_false (by omega),
      if_neg Bool.false_ne_true, if_neg Bool.false_ne_true, Char.ofNat_toNat]
  · rename_i hbasic
    have hhigh : isHighSurrogate (0xD800 + (c.toNat - 0x10000) / 0x400) = true := by
      rw [isHighSurrogate, Bool.and_eq_true_iff, decide_eq_true_iff, decide_eq_true_iff]
      omega
    have hlow : isLowSurrogate (0xDC00 + (c.toNat - 0x10000) % 0x400) = true := by
      rw [isLowSurrogate, Bool.and_eq_true_iff, decide_eq_true_iff, decide_eq_true_iff]
      omega
    have hsum : 0x10000 + (0xD800 + (c.toNat - 0x10000) / 0x400 - 0xD800) * 0x400 +
        (0xDC00 + (c.toNat - 0x10000) % 0x400 - 0xDC00) = c.toNat := by
      omega
    rw [List.cons_append, List.singleton_append, textOfUnits, if_pos hhigh, textOfUnits, if_pos hlow, hsum,
      Char.ofNat_toNat]

theorem textOfUnits_flatMap (cs : List Char) (read : List Char) :
    textOfUnits read none (cs.flatMap units) = read.reverse ++ cs := by
  induction cs generalizing read with
  | nil => rw [List.flatMap_nil, textOfUnits, List.append_nil]; rfl
  | cons c cs ih =>
    rw [List.flatMap_cons, textOfUnits_units, ih, List.reverse_cons, List.append_assoc]
    rfl

/-! ## Plain bytes -/

theorem isPlain_iff {b : UInt8} : isPlain b = true ↔ 0 < b.toNat ∧ b.toNat < 0x80 := by
  have hzero : b ≠ 0 ↔ 0 < b.toNat := by rw [Nat.pos_iff_ne_zero, ne_eq, ne_eq, ← UInt8.toNat_inj, UInt8.toNat_zero]
  rw [isPlain, Bool.and_eq_true_iff, bne_iff_ne, decide_eq_true_iff, hzero, UInt8.lt_iff_toNat_lt]
  rfl

theorem decodeUnits_of_isPlain {bytes : List UInt8} (h : ∀ b ∈ bytes, isPlain b = true) (read : List Nat) :
    decodeUnits read bytes = some (read.reverse ++ bytes.map UInt8.toNat) := by
  induction bytes generalizing read with
  | nil => rw [decodeUnits, List.map_nil, List.append_nil]
  | cons b bytes ih =>
    obtain ⟨hb, hbytes⟩ := List.forall_mem_cons.mp h
    rw [decodeUnits_one (isPlain_iff.mp hb), ih hbytes, List.reverse_cons, List.append_assoc]
    rfl

theorem textOfUnits_of_lt {us : List Nat} (h : ∀ u ∈ us, u < 0xD800) (read : List Char) :
    textOfUnits read none us = read.reverse ++ us.map Char.ofNat := by
  induction us generalizing read with
  | nil => rw [textOfUnits, List.map_nil, List.append_nil]; rfl
  | cons u us ih =>
    obtain ⟨hu, hus⟩ := List.forall_mem_cons.mp h
    rw [textOfUnits, isHighSurrogate_eq_false (.inl hu), isLowSurrogate_eq_false (by omega),
      if_neg Bool.false_ne_true, if_neg Bool.false_ne_true, ih hus, List.reverse_cons, List.append_assoc]
    rfl

/-- The text that a byte run spells, by way of its code units. -/
def decodeByUnits (bytes : List UInt8) : Except Defect String :=
  match decodeUnits [] bytes with
  | some us => .ok (String.ofList (textOfUnits [] none us))
  | none => .error (.malformed .badText)

/-- The text of plain bytes, each of which is a character. -/
def plainText (bytes : List UInt8) : String :=
  String.ofList (bytes.map fun b => Char.ofNat b.toNat)

theorem decode_of_isPlain {bytes : List UInt8} (h : ∀ b ∈ bytes, isPlain b = true) :
    decode bytes = .ok (plainText bytes) :=
  if_pos (List.all_eq_true.mpr h)

/-- **The shorter way of plain bytes** gives what the longer one gives. -/
theorem decode_eq (bytes : List UInt8) : decode bytes = decodeByUnits bytes := by
  rw [decode, decodeByUnits]
  split
  · rename_i hplain
    rw [List.all_eq_true] at hplain
    -- plain bytes are their own code units, and no surrogates
    have hlow : ∀ u ∈ bytes.map UInt8.toNat, u < 0xD800 := by
      intro u hu
      obtain ⟨b, hb, rfl⟩ := List.mem_map.mp hu
      have := (isPlain_iff.mp (hplain b hb)).2
      omega
    rw [decodeUnits_of_isPlain hplain]
    dsimp only
    rw [List.reverse_nil, List.nil_append, textOfUnits_of_lt hlow, List.reverse_nil, List.nil_append, List.map_map]
    rfl
  · rfl

/-! ## Texts -/

/-- **A text is read back from its bytes.** -/
theorem decode_encode_text (text : String) : decode (encode text) = .ok text := by
  have hunits : encode text = (text.toList.flatMap units).flatMap unitBytes := List.flatMap_assoc.symm
  have hlow : ∀ u ∈ text.toList.flatMap units, u < 65536 := by
    intro u hu
    obtain ⟨c, -, hu⟩ := List.mem_flatMap.mp hu
    exact unit_lt u hu
  rw [decode_eq, decodeByUnits, hunits, decodeUnits_flatMap hlow]
  dsimp only
  rw [List.reverse_nil, List.nil_append, textOfUnits_flatMap, List.reverse_nil, List.nil_append, String.ofList_toList]

end ModifiedUtf8

/-- The constant of a text is the one that its bytes spell. -/
theorem Utf8Constant.ofRaw_ofText (text : String) : ofRaw (ofText text).raw = .ok (ofText text) := by
  rw [ofRaw, show (ofText text).raw = ModifiedUtf8.encode text from rfl, ModifiedUtf8.decode_encode_text]
  rfl

namespace ModifiedUtf8

theorem encode_bounds (text : String) : ∀ b ∈ encode text, b ≠ 0 ∧ b.toNat ≤ 0xEF := by
  intro b hb
  obtain ⟨c, -, hb⟩ := List.mem_flatMap.mp hb
  obtain ⟨unit, hunit, hb⟩ := List.mem_flatMap.mp hb
  obtain ⟨hpos, hle⟩ := unitBytes_bounds (unit_lt unit hunit) b hb
  exact ⟨fun hzero => absurd (congrArg UInt8.toNat hzero) (Nat.ne_of_gt hpos), hle⟩

/-- **Texts survive their encoding.** Every text is read back from its bytes, none of which is zero or above `0xEF`; its
constant is the one that is read of these bytes; and a run of plain bytes is read, at once, as the text that the way by
code units gives. -/
theorem decode_encode_bounded (text : String) :
    decode (encode text) = .ok text ∧ (∀ b ∈ encode text, b ≠ 0 ∧ b.toNat ≤ 0xEF) ∧
      Utf8Constant.ofRaw (Utf8Constant.ofText text).raw = .ok (Utf8Constant.ofText text) ∧
      ∀ bytes : List UInt8, (∀ b ∈ bytes, 1 ≤ b.toNat ∧ b.toNat ≤ 0x7F) →
        decode bytes = .ok (plainText bytes) ∧ decodeByUnits bytes = .ok (plainText bytes) := by
  refine ⟨decode_encode_text text, encode_bounds text, Utf8Constant.ofRaw_ofText text, fun bytes hbytes => ?_⟩
  have hplain : ∀ b ∈ bytes, isPlain b = true := by
    intro b hb
    obtain ⟨hpos, hle⟩ := hbytes b hb
    exact isPlain_iff.mpr ⟨hpos, Nat.lt_succ_of_le hle⟩
  exact ⟨decode_of_isPlain hplain, (decode_eq bytes).symm.trans (decode_of_isPlain hplain)⟩

/-- A text with a character of each length, the zero character among them, and the two ends of the plain bytes. -/
theorem decode_encode_bounded_mixed :
    encode "a\x00é€😀" = [0x61, 0xC0, 0x80, 0xC3, 0xA9, 0xE2, 0x82, 0xAC, 0xED, 0xA0, 0xBD, 0xED, 0xB8, 0x80] ∧
      decode (encode "a\x00é€😀") = .ok "a\x00é€😀" ∧ (∀ b ∈ [0x01, 0x7F], 1 ≤ UInt8.toNat b ∧ b.toNat ≤ 0x7F) ∧
      decode [0x01, 0x7F] = decodeByUnits [0x01, 0x7F] := by
  have hread := decode_encode_bounded "a\x00é€😀"
  have hplain : ∀ b ∈ [0x01, 0x7F], 1 ≤ UInt8.toNat b ∧ b.toNat ≤ 0x7F :=
    List.forall_mem_cons.mpr ⟨by decide, List.forall_mem_singleton.mpr (by decide)⟩
  obtain ⟨hshort, hlong⟩ := hread.2.2.2 [0x01, 0x7F] hplain
  exact ⟨by decide, hread.1, hplain, hshort.trans hlong.symm⟩

end ModifiedUtf8

end ClassWeaver
