import ClassWeaver.ClassFile.ConstantPool
import ClassWeaver.Proofs.Bytes.Reading

/-!
# The bytes of constant pools

The writer of a pool walks over its slots and writes nothing for an unusable one; the reader has to guess where
those slots are from the width of the constants that it meets. The two agree on pools whose slots are *tiled*:
every usable constant takes exactly its width. Tilings are also all that a reader ever builds, except that its
last constant may reach one slot beyond the announced number.

## Contents

* `Constant.Writable`, `reads_constant`, `decode_eq_ok` — one constant, in both directions.
* `Tiled` — slots that are filled by constants of their widths.
* `reads_fill`, `fill_eq_ok` — the slots behind slot 0, in both directions.
* `ConstantPool.WellFormed`, `reads_pool`, `pool_eq_ok` — whole pools.
-/

namespace ClassWeaver

open Bytes Decoder

/-! ## One constant -/

namespace Constant

/-- A text constant keeps at most 65535 bytes, and its text is what they spell. -/
def Writable : Constant → Prop
  | utf8 value => value.raw.length < 65536 ∧ Utf8Constant.ofRaw value.raw = .ok value
  | _ => True

theorem ofRaw_raw {raw : List UInt8} {value : Utf8Constant} (h : Utf8Constant.ofRaw raw = .ok value) :
    value.raw = raw := by
  simp only [Utf8Constant.ofRaw] at h
  split at h
  · cases h
    rfl
  · cases h

theorem reads_pair (make : UInt16 → UInt16 → Constant) (a b : UInt16) :
    Reads (pair make) (u16 a ++ u16 b) (make a b) :=
  (reads_u2 a).bind ((reads_u2 b).bind_pure (make a))

theorem reads_decodeUtf8 {value : Utf8Constant} (h : (utf8 value).Writable) :
    Reads decodeUtf8 (count16 value.raw.length ++ value.raw) (utf8 value) := by
  obtain ⟨hlen, hraw⟩ := h
  refine (reads_u2 _).bind fun rest => ?_
  rw [bind_of_eq_ok (reads_run (toNat_ofNat16 hlen).symm rest), hraw]
  rfl

/-- **A constant reads back**, unless it is the unusable slot, which has no bytes. -/
theorem reads_constant {c : Constant} (h : c.Writable) (hu : c ≠ .unusable) : Reads decode c.toBytes c := by
  have tagged (tag : UInt8) {bytes : List UInt8} (hf : Reads (decodeFields tag) bytes c) :
      Reads decode (tag :: bytes) c := (reads_u1 tag).bind hf
  cases c with
  | utf8 value => exact tagged 1 (reads_decodeUtf8 h)
  | integer value => exact tagged 3 ((reads_i4 value).map integer)
  | float bits => exact tagged 4 ((reads_u4 bits).map float)
  | long value =>
    have := (reads_u8 value.toUInt64).map fun bits => long bits.toInt64
    rw [Int64.toInt64_toUInt64] at this
    exact tagged 5 this
  | double bits => exact tagged 6 ((reads_u8 bits).map double)
  | classRef name => exact tagged 7 ((reads_u2 name).map classRef)
  | string text => exact tagged 8 ((reads_u2 text).map string)
  | fieldRef owner member => exact tagged 9 (reads_pair fieldRef owner member)
  | methodRef owner member => exact tagged 10 (reads_pair methodRef owner member)
  | interfaceMethodRef owner member => exact tagged 11 (reads_pair interfaceMethodRef owner member)
  | nameAndType name descriptor => exact tagged 12 (reads_pair nameAndType name descriptor)
  | methodHandle kind reference =>
    exact tagged 15 ((reads_u1 kind).bind ((reads_u2 reference).bind_pure (methodHandle kind)))
  | methodType descriptor => exact tagged 16 ((reads_u2 descriptor).map methodType)
  | dynamic bootstrap member => exact tagged 17 (reads_pair dynamic bootstrap member)
  | invokeDynamic bootstrap member => exact tagged 18 (reads_pair invokeDynamic bootstrap member)
  | moduleRef name => exact tagged 19 ((reads_u2 name).map moduleRef)
  | packageRef name => exact tagged 20 ((reads_u2 name).map packageRef)
  | unusable => exact absurd rfl hu

/-- What the fields behind a tag may be: a usable constant whose bytes are the tag and what was taken. -/
def TakenAs (tag : UInt8) (bytes : List UInt8) (c : Constant) (rest : List UInt8) : Prop :=
  tag :: bytes = c.toBytes ++ rest ∧ c.Writable ∧ c ≠ .unusable

theorem tag_eq {tag : UInt8} {n : Nat} (h : tag.toNat = n) : tag = UInt8.ofNat n := by
  rw [← h, UInt8.ofNat_toNat]

theorem taken_pair {tag : UInt8} {n : Nat} {make : UInt16 → UInt16 → Constant} {bytes rest : List UInt8}
    {c : Constant} (htag : tag.toNat = n) (h : pair make bytes = .ok (c, rest))
    (hm : ∀ a b, (make a b).toBytes = UInt8.ofNat n :: (u16 a ++ u16 b) ∧ (make a b).Writable ∧
      make a b ≠ .unusable) : TakenAs tag bytes c rest := by
  obtain ⟨a, middle, ha, hrest⟩ := bind_eq_ok.mp h
  obtain ⟨b, middle', hb, hp⟩ := bind_eq_ok.mp hrest
  obtain ⟨rfl, rfl⟩ := pure_eq_ok.mp hp
  refine ⟨?_, (hm a b).2⟩
  rw [tag_eq htag, (hm a b).1, spelled_u2 bytes a middle ha, spelled_u2 middle b middle' hb]
  simp only [List.cons_append, List.append_assoc]

theorem taken_map {α : Type} {tag : UInt8} {n : Nat} {d : Decoder α} {write : α → List UInt8}
    {make : α → Constant} {bytes rest : List UInt8} {c : Constant} (hd : Spelled d write)
    (htag : tag.toNat = n) (h : (make <$> d) bytes = .ok (c, rest))
    (hm : ∀ a, (make a).toBytes = UInt8.ofNat n :: write a ∧ (make a).Writable ∧ make a ≠ .unusable) :
    TakenAs tag bytes c rest := by
  obtain ⟨a, ha, rfl⟩ := map_eq_ok.mp h
  refine ⟨?_, (hm a).2⟩
  rw [tag_eq htag, (hm a).1, hd bytes a rest ha, List.cons_append]

theorem taken_utf8 {bytes rest : List UInt8} {c : Constant} {tag : UInt8} (htag : tag.toNat = 1)
    (h : decodeUtf8 bytes = .ok (c, rest)) : TakenAs tag bytes c rest := by
  obtain ⟨n, middle, hn, hrest⟩ := bind_eq_ok.mp h
  obtain ⟨raw, middle', hrun, hend⟩ := bind_eq_ok.mp hrest
  obtain ⟨hlen, hmiddle⟩ := run_eq_ok hrun
  cases hraw : Utf8Constant.ofRaw raw with
  | ok value =>
    rw [hraw] at hend
    obtain ⟨rfl, rfl⟩ := pure_eq_ok.mp hend
    have heq := ofRaw_raw hraw
    have hlt := n.toNat_lt
    refine ⟨?_, ⟨by rw [heq]; omega, by rw [heq]; exact hraw⟩, nofun⟩
    rw [tag_eq htag, toBytes, heq, hlen, count16_toNat, spelled_u2 bytes n middle hn, hmiddle]
    simp only [List.cons_append, List.append_assoc]
    rfl
  | error e =>
    rw [hraw] at hend
    cases hend

theorem taken_methodHandle {bytes rest : List UInt8} {c : Constant} {tag : UInt8} (htag : tag.toNat = 15)
    (h : (u1 >>= fun kind => u2 >>= fun reference => pure (methodHandle kind reference)) bytes
      = .ok (c, rest)) : TakenAs tag bytes c rest := by
  obtain ⟨kind, middle, hk, hrest⟩ := bind_eq_ok.mp h
  obtain ⟨reference, middle', hr, hp⟩ := bind_eq_ok.mp hrest
  obtain ⟨rfl, rfl⟩ := pure_eq_ok.mp hp
  refine ⟨?_, trivial, nofun⟩
  rw [tag_eq htag, spelled_u1 bytes kind middle hk, spelled_u2 middle reference middle' hr]
  rfl

theorem taken_fields {tag : UInt8} {bytes rest : List UInt8} {c : Constant}
    (h : decodeFields tag bytes = .ok (c, rest)) : TakenAs tag bytes c rest := by
  generalize hd : decodeFields tag = d at h
  unfold decodeFields at hd
  -- one case for each tag, in the order of the tags
  split at hd <;> rename_i htag <;> subst hd
  · exact taken_utf8 htag h
  · exact taken_map spelled_i4 htag h fun _ => ⟨rfl, trivial, nofun⟩
  · exact taken_map spelled_u4 htag h fun _ => ⟨rfl, trivial, nofun⟩
  · refine taken_map spelled_u8 htag h fun bits => ⟨?_, trivial, nofun⟩
    show 5 :: u64 bits.toInt64.toUInt64 = 5 :: u64 bits
    rw [UInt64.toUInt64_toInt64]
  · exact taken_map spelled_u8 htag h fun _ => ⟨rfl, trivial, nofun⟩
  · exact taken_map spelled_u2 htag h fun _ => ⟨rfl, trivial, nofun⟩
  · exact taken_map spelled_u2 htag h fun _ => ⟨rfl, trivial, nofun⟩
  · exact taken_pair htag h fun _ _ => ⟨rfl, trivial, nofun⟩
  · exact taken_pair htag h fun _ _ => ⟨rfl, trivial, nofun⟩
  · exact taken_pair htag h fun _ _ => ⟨rfl, trivial, nofun⟩
  · exact taken_pair htag h fun _ _ => ⟨rfl, trivial, nofun⟩
  · exact taken_methodHandle htag h
  · exact taken_map spelled_u2 htag h fun _ => ⟨rfl, trivial, nofun⟩
  · exact taken_pair htag h fun _ _ => ⟨rfl, trivial, nofun⟩
  · exact taken_pair htag h fun _ _ => ⟨rfl, trivial, nofun⟩
  · exact taken_map spelled_u2 htag h fun _ => ⟨rfl, trivial, nofun⟩
  · exact taken_map spelled_u2 htag h fun _ => ⟨rfl, trivial, nofun⟩
  · cases h

/-- **A constant that was read** is usable, can be written, and its bytes are those that were taken. -/
theorem decode_eq_ok {bytes rest : List UInt8} {c : Constant} (h : decode bytes = .ok (c, rest)) :
    bytes = c.toBytes ++ rest ∧ c.Writable ∧ c ≠ .unusable := by
  obtain ⟨tag, middle, htag, hfields⟩ := bind_eq_ok.mp h
  rw [spelled_u1 bytes tag middle htag]
  exact taken_fields hfields

end Constant

/-! ## Tiled slots -/

/-- Slots that are filled by usable constants, each with its width: a wide one has one unusable slot behind it,
and there are no other unusable slots. -/
inductive Tiled : List Constant → Prop
  | nil : Tiled []
  | narrow {c : Constant} {rest : List Constant} :
      c.isWide = false → c ≠ .unusable → Tiled rest → Tiled (c :: rest)
  | wide {c : Constant} {rest : List Constant} :
      c.isWide = true → Tiled rest → Tiled (c :: .unusable :: rest)

/-- The tiling ends with a wide constant. -/
def EndsWide (slots : List Constant) : Prop :=
  ∃ front c, slots = front ++ [c, .unusable] ∧ c.isWide = true

theorem EndsWide.append {slots : List Constant} (h : EndsWide slots) (before : List Constant) :
    EndsWide (before ++ slots) := by
  obtain ⟨front, c, rfl, hc⟩ := h
  exact ⟨before ++ front, c, (List.append_assoc ..).symm, hc⟩

theorem ne_unusable_of_isWide {c : Constant} (h : c.isWide = true) : c ≠ .unusable := by
  rintro rfl
  cases h

namespace ConstantPool

/-- One step of filling: a wide constant takes two of the wanted slots, or the one that is left. -/
theorem fill_succ (slots : Array Constant) (n : Nat) (bytes : List UInt8) :
    fill slots (n + 1) bytes =
      match Constant.decode bytes with
      | .error e => .error e
      | .ok (c, rest) =>
        if c.isWide then fill ((slots.push c).push .unusable) (n - 1) rest else fill (slots.push c) n rest := by
  cases n with
  | zero =>
    simp only [fill]
    cases Constant.decode bytes with
    | error e => rfl
    | ok p =>
      simp only [Nat.zero_sub]
      split <;> rfl
  | succ n => rfl

theorem fill_narrow {slots : Array Constant} {n : Nat} {bytes rest : List UInt8} {c : Constant}
    (h : Constant.decode bytes = .ok (c, rest)) (hc : c.isWide = false) :
    fill slots (n + 1) bytes = fill (slots.push c) n rest := by
  simp only [fill_succ, h, hc, Bool.false_eq_true, if_false]

theorem fill_wide {slots : Array Constant} {n : Nat} {bytes rest : List UInt8} {c : Constant}
    (h : Constant.decode bytes = .ok (c, rest)) (hc : c.isWide = true) :
    fill slots (n + 1) bytes = fill ((slots.push c).push .unusable) (n - 1) rest := by
  simp only [fill_succ, h, hc, if_true]

/-- **Tiled slots read back**, behind the slots that are there already. -/
theorem reads_fill {added : List Constant} (ht : Tiled added) (hw : ∀ c ∈ added, c.Writable) :
    ∀ slots : Array Constant,
      Reads (fill slots added.length) (added.flatMap Constant.toBytes) (slots ++ added.toArray) := by
  induction ht with
  | nil =>
    intro slots rest
    rw [Array.append_empty]
    rfl
  | @narrow c added hc hu _ ih =>
    intro slots rest
    have hread := Constant.reads_constant (hw c (List.mem_cons_self ..)) hu
    rw [List.flatMap_cons, List.append_assoc, List.length_cons, fill_narrow (hread _) hc,
      ih (fun d hd => hw d (List.mem_cons_of_mem c hd))]
    simp
  | @wide c added hc _ ih =>
    intro slots rest
    have hread := Constant.reads_constant (hw c (List.mem_cons_self ..)) (ne_unusable_of_isWide hc)
    have hrest := ih (fun d hd => hw d (List.mem_cons_of_mem c (List.mem_cons_of_mem _ hd)))
    rw [List.flatMap_cons, List.append_assoc, List.length_cons, fill_wide (hread _) hc, List.length_cons,
      Nat.add_sub_cancel]
    show fill _ added.length (added.flatMap Constant.toBytes ++ rest) = _
    rw [hrest]
    simp

/-- **Slots that were filled** are tiled behind those before, spell the bytes that were taken, and are as many as
wanted; one more if they end with a wide constant that had only one slot left. -/
theorem fill_eq_ok : ∀ {n : Nat} {slots filled : Array Constant} {bytes rest : List UInt8},
    fill slots n bytes = .ok (filled, rest) →
      ∃ added, filled.toList = slots.toList ++ added ∧ Tiled added ∧ (∀ c ∈ added, c.Writable) ∧
        bytes = added.flatMap Constant.toBytes ++ rest ∧
        (added.length = n ∨ (added.length = n + 1 ∧ EndsWide added)) := by
  -- a wide constant uses up two slots at once, so one step of induction may skip a number
  intro n
  induction n using Nat.strongRecOn with
  | ind n ih =>
    intro slots filled bytes rest h
    cases n with
    | zero =>
      cases h
      exact ⟨[], by simp, .nil, nofun, rfl, .inl rfl⟩
    | succ n =>
      cases hd : Constant.decode bytes with
      | error e =>
        rw [fill_succ, hd] at h
        cases h
      | ok p =>
        obtain ⟨c, middle⟩ := p
        obtain ⟨hbytes, hc, hu⟩ := Constant.decode_eq_ok hd
        cases hw : c.isWide with
        | false =>
          rw [fill_narrow hd hw] at h
          obtain ⟨added, hslots, ht, hwr, hmiddle, hlen⟩ := ih n (Nat.lt_succ_self n) h
          refine ⟨c :: added, by simp [hslots], .narrow hw hu ht, ?_, ?_, ?_⟩
          · exact List.forall_mem_cons.mpr ⟨hc, hwr⟩
          · rw [List.flatMap_cons, List.append_assoc, ← hmiddle, hbytes]
          · refine hlen.imp (fun h => by simp [h]) fun h => ⟨by simp [h.1], ?_⟩
            exact h.2.append [c]
        | true =>
          rw [fill_wide hd hw] at h
          obtain ⟨added, hslots, ht, hwr, hmiddle, hlen⟩ := ih (n - 1) (by omega) h
          refine ⟨c :: .unusable :: added, by simp [hslots], .wide hw ht, ?_, ?_, ?_⟩
          · exact List.forall_mem_cons.mpr ⟨hc, List.forall_mem_cons.mpr ⟨trivial, hwr⟩⟩
          · rw [List.flatMap_cons, List.flatMap_cons, List.append_assoc, List.append_assoc, ← hmiddle, hbytes]
            rfl
          · cases n with
            | succ n =>
              refine hlen.imp (fun h => by simp [h]) fun h => ⟨by simp [h.1], ?_⟩
              exact h.2.append [c, .unusable]
            | zero =>
              -- one slot was left and the constant took two
              have hnone : added = [] := by
                rw [fill] at h
                cases h
                simpa using hslots
              exact .inr ⟨by simp [hnone], [], c, by simp [hnone], hw⟩

/-! ## Whole pools -/

/-- A pool that can be written: slot 0 is unusable, the others are tiled, there are at most 65535, and the text
constants keep bytes that spell their texts. -/
structure WellFormed (p : ConstantPool) : Prop where
  tiled : ∃ added, p.slots.toList = .unusable :: added ∧ Tiled added
  writable : ∀ c ∈ p.slots.toList, c.Writable
  count_le : p.count ≤ 65535

/-- **A well-formed pool reads back.** -/
theorem reads_pool {p : ConstantPool} (h : p.WellFormed) : Reads decode p.toBytes p := by
  obtain ⟨added, hslots, ht⟩ := h.tiled
  have hcount : p.count = added.length + 1 := by
    rw [count, ← Array.length_toList, hslots, List.length_cons]
  have hlt : p.count < 65536 := Nat.lt_succ_of_le h.count_le
  have hfill : Reads (fill #[.unusable] ((UInt16.ofNat p.count).toNat - 1))
      (p.slots.toList.flatMap Constant.toBytes) p.slots := by
    have hread := reads_fill ht (fun c hc => h.writable c (by rw [hslots]; exact List.mem_cons_of_mem _ hc))
      #[.unusable]
    rw [toNat_ofNat16 hlt, hcount, Nat.add_sub_cancel, hslots]
    have hall : #[Constant.unusable] ++ added.toArray = p.slots := by
      apply Array.toList_inj.mp
      rw [hslots]
      simp
    rwa [hall] at hread
  exact (reads_u2 _).bind (hfill.bind_pure ConstantPool.mk)

/-- **A pool that was read** spells the bytes behind its announced number of slots; it has that number of slots,
or one more if it ends with a wide constant. Slot 0 is there even if no slot is announced. -/
theorem pool_eq_ok {bytes rest : List UInt8} {p : ConstantPool} (h : decode bytes = .ok (p, rest)) :
    ∃ announced : UInt16, bytes = u16 announced ++ (p.slots.toList.flatMap Constant.toBytes ++ rest) ∧
      (∃ added, p.slots.toList = .unusable :: added ∧ Tiled added ∧
        (added.length = announced.toNat - 1 ∨ (added.length = announced.toNat - 1 + 1 ∧ EndsWide added))) ∧
      ∀ c ∈ p.slots.toList, c.Writable := by
  obtain ⟨announced, middle, hn, hrest⟩ := bind_eq_ok.mp h
  obtain ⟨filled, middle', hfill, hp⟩ := bind_eq_ok.mp hrest
  obtain ⟨rfl, rfl⟩ := pure_eq_ok.mp hp
  obtain ⟨added, hslots, ht, hw, hmiddle, hlen⟩ := fill_eq_ok hfill
  replace hslots : filled.toList = .unusable :: added := hslots
  refine ⟨announced, ?_, ⟨added, hslots, ht, hlen⟩, ?_⟩
  · rw [spelled_u2 bytes announced middle hn, hmiddle, hslots]
    rfl
  · rw [hslots]
    exact List.forall_mem_cons.mpr ⟨trivial, hw⟩

end ConstantPool

end ClassWeaver
