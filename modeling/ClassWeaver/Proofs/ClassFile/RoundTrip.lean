import ClassWeaver.ClassFile.Structure
import ClassWeaver.Proofs.ClassFile.PoolBytes

/-!
# Class files and their bytes

Reading and writing of class files are two traversals of the same format, and every edit relies on their
agreement: a class counts as changed when the bytes written differ from the bytes read. This file proves both
directions for whole files.

## Contents

* `Attribute`, `Member` — attributes and members in both directions.
* `ClassFile.Writable`, `ofBytes_toBytes` — every class within the limits of the format reads back as it was.
* `announcedSlots`, `toBytes_eq_iff_of_ofBytes` — an unedited class writes back byte for byte exactly when its
  constants fill no more slots than announced.
-/

namespace ClassWeaver

open Bytes Decoder

/-! ## Attributes and members -/

/-- A payload has a length of 32 bits. -/
def Attribute.Writable (a : Attribute) : Prop :=
  a.info.length < 4294967296

/-- A list has a length of 16 bits, and its items can be written. -/
def WritableList {α : Type} (item : α → Prop) (items : List α) : Prop :=
  items.length ≤ 65535 ∧ ∀ x ∈ items, item x

/-- The attributes of a member can be written. -/
def Member.Writable (m : Member) : Prop :=
  WritableList Attribute.Writable m.attributes

theorem reads_countedBytes {α : Type} {item : Decoder α} {write : α → List UInt8} {valid : α → Prop}
    {xs : List α} (h : WritableList valid xs) (hitem : ∀ x, valid x → Reads item (write x) x) :
    Reads (counted item) (countedBytes write xs) xs :=
  reads_counted (Nat.lt_succ_of_le h.1) fun x hx => hitem x (h.2 x hx)

theorem reads_attribute (a : Attribute) (h : a.Writable) : Reads Attribute.decode a.toBytes a :=
  (reads_u2 a.nameIndex).bind ((reads_sizedRun h).bind_pure (Attribute.mk a.nameIndex))

theorem reads_member (m : Member) (h : m.Writable) : Reads Member.decode m.toBytes m := by
  rw [Member.toBytes, List.append_assoc, List.append_assoc]
  refine (reads_u2 m.access.bits).bind ((reads_u2 m.nameIndex).bind ((reads_u2 m.descriptorIndex).bind ?_))
  exact (reads_countedBytes h reads_attribute).bind_pure
    (Member.mk ⟨m.access.bits⟩ m.nameIndex m.descriptorIndex)

theorem spelled_attribute : Spelled Attribute.decode Attribute.toBytes := by
  intro bytes a rest h
  obtain ⟨nameIndex, middle, hn, hrest⟩ := bind_eq_ok.mp h
  obtain ⟨info, middle', hi, hp⟩ := bind_eq_ok.mp hrest
  obtain ⟨rfl, rfl⟩ := pure_eq_ok.mp hp
  rw [Attribute.toBytes, List.append_assoc, ← spelled_sizedRun middle info middle' hi]
  exact spelled_u2 bytes nameIndex middle hn

theorem spelled_member : Spelled Member.decode Member.toBytes := by
  intro bytes m rest h
  obtain ⟨access, r₁, h₁, h⟩ := bind_eq_ok.mp h
  obtain ⟨nameIndex, r₂, h₂, h⟩ := bind_eq_ok.mp h
  obtain ⟨descriptorIndex, r₃, h₃, h⟩ := bind_eq_ok.mp h
  obtain ⟨attributes, r₄, h₄, hp⟩ := bind_eq_ok.mp h
  obtain ⟨rfl, rfl⟩ := pure_eq_ok.mp hp
  simp only [Member.toBytes, List.append_assoc]
  rw [spelled_u2 bytes access r₁ h₁, spelled_u2 r₁ nameIndex r₂ h₂, spelled_u2 r₂ descriptorIndex r₃ h₃,
    spelled_counted spelled_attribute r₃ attributes r₄ h₄]
  rfl

namespace ClassFile

/-! ## Reading what was written -/

/-- A class within the limits of the format, which has a name. -/
structure Writable (c : ClassFile) : Prop where
  pool : c.pool.WellFormed
  interfaces : c.interfaces.length ≤ 65535
  fields : WritableList Member.Writable c.fields
  methods : WritableList Member.Writable c.methods
  attributes : WritableList Attribute.Writable c.attributes
  named : ∃ name, c.name = .ok name

/-- What stands behind the constants. -/
def tailBytes (c : ClassFile) : List UInt8 :=
  u16 c.access.bits ++ (u16 c.thisClass ++ (u16 c.superClass ++ (countedBytes u16 c.interfaces ++
    (countedBytes Member.toBytes c.fields ++ (countedBytes Member.toBytes c.methods ++
      countedBytes Attribute.toBytes c.attributes)))))

/-- What stands behind the magic number. -/
def bodyBytes (c : ClassFile) : List UInt8 :=
  u16 c.minorVersion ++ (u16 c.majorVersion ++ (c.pool.toBytes ++ c.tailBytes))

theorem reads_body {c : ClassFile} (h : c.Writable) : Reads decodeBody c.bodyBytes c := by
  have hinterfaces : WritableList (fun _ => True) c.interfaces := ⟨h.interfaces, fun _ _ => trivial⟩
  refine (reads_u2 c.minorVersion).bind ((reads_u2 c.majorVersion).bind ((ConstantPool.reads_pool h.pool).bind ?_))
  refine (reads_u2 c.access.bits).bind ((reads_u2 c.thisClass).bind ((reads_u2 c.superClass).bind ?_))
  refine (reads_countedBytes hinterfaces fun n _ => reads_u2 n).bind ?_
  refine (reads_countedBytes h.fields reads_member).bind ((reads_countedBytes h.methods reads_member).bind ?_)
  exact (reads_countedBytes h.attributes reads_attribute).bind_pure
    (ClassFile.mk c.minorVersion c.majorVersion c.pool ⟨c.access.bits⟩ c.thisClass c.superClass c.interfaces
      c.fields c.methods)

/-- A file is read when its parts are, nothing stands behind them, and the class has a name. -/
theorem ofBytes_eq_ok {bytes : List UInt8} {c : ClassFile} :
    ofBytes bytes = .ok c ↔
      ∃ rest, u4 bytes = .ok (magic, rest) ∧ decodeBody rest = .ok (c, []) ∧ ∃ name, c.name = .ok name := by
  constructor
  · intro h
    unfold ofBytes at h
    split at h
    · cases h
    · rename_i found rest hmagic
      split at h
      · cases h
      · rename_i hfound
        obtain rfl : found = magic := Decidable.not_not.mp hfound
        split at h
        · cases h
        · rename_i read hbody
          cases hname : read.name with
          | error e =>
            rw [hname] at h
            cases h
          | ok name =>
            rw [hname] at h
            cases h
            exact ⟨rest, hmagic, hbody, name, hname⟩
        · cases h
  · rintro ⟨rest, hmagic, hbody, name, hname⟩
    simp only [ofBytes, hmagic, ne_eq, not_true_eq_false, if_false, hbody, hname]

/-- **Reading undoes writing.** A class within the limits of the format, whatever its constants, members and
payloads are, is read back from its bytes as it was. -/
theorem ofBytes_toBytes (c : ClassFile) (h : c.Writable) : ofBytes c.toBytes = .ok c := by
  refine ofBytes_eq_ok.mpr ⟨c.bodyBytes, reads_u4 magic c.bodyBytes, ?_, h.named⟩
  have hread := reads_body h []
  rwa [List.append_nil] at hread

/-- A class is read if its constants are, at least. -/
theorem pool_of_ofBytes_toBytes {c d : ClassFile} (h : ofBytes c.toBytes = .ok d) :
    ∃ p rest, ConstantPool.decode (c.pool.toBytes ++ c.tailBytes) = .ok (p, rest) := by
  obtain ⟨behind, hmagic, hbody, -⟩ := ofBytes_eq_ok.mp h
  obtain rfl : behind = c.bodyBytes := by
    have hread := (reads_u4 magic c.bodyBytes).symm.trans hmagic
    exact (congrArg Prod.snd (Except.ok.inj hread)).symm
  obtain ⟨minorVersion, r₁, h₁, h⟩ := bind_eq_ok.mp hbody
  cases (reads_u2 c.minorVersion _).symm.trans h₁
  obtain ⟨majorVersion, r₂, h₂, h⟩ := bind_eq_ok.mp h
  cases (reads_u2 c.majorVersion _).symm.trans h₂
  obtain ⟨pool, r₃, h₃, -⟩ := bind_eq_ok.mp h
  exact ⟨pool, r₃, h₃⟩

/-- A class named `A`, spelled in two bytes where one is enough, with a lone surrogate, a signalling NaN, a long
and payloads that nobody reads. -/
def oddlySpelled : ClassFile where
  minorVersion := 0
  majorVersion := 52
  pool := ⟨#[.unusable, .classRef 2, .utf8 ⟨"A", [0xC1, 0x81]⟩, .utf8 ⟨"\uFFFD", [0xED, 0xA0, 0x80]⟩,
    .long (-1), .unusable, .double 0x7FF0000000000001, .unusable]⟩
  access := ⟨0x0021⟩
  thisClass := 1
  superClass := 0
  interfaces := [1]
  fields := [⟨⟨0x0002⟩, 2, 3, [⟨3, [0xFF]⟩]⟩]
  methods := []
  attributes := [⟨2, [1, 2, 3]⟩]

theorem oddlySpelled_pool : oddlySpelled.pool.WellFormed where
  tiled := ⟨_, rfl, .narrow rfl nofun (.narrow rfl nofun (.narrow rfl nofun (.wide rfl (.wide rfl .nil))))⟩
  writable := by
    simp only [oddlySpelled, List.forall_mem_cons, Constant.Writable, true_and]
    exact ⟨⟨by decide, rfl⟩, ⟨by decide, rfl⟩, nofun⟩
  count_le := by decide

theorem ofBytes_toBytes_oddlySpelled : oddlySpelled.Writable ∧ ofBytes oddlySpelled.toBytes = .ok oddlySpelled := by
  have h : oddlySpelled.Writable :=
    { pool := oddlySpelled_pool
      interfaces := by decide
      fields := ⟨by decide, by simp [oddlySpelled, Member.Writable, WritableList, Attribute.Writable]⟩
      methods := ⟨by decide, nofun⟩
      attributes := ⟨by decide, by simp [oddlySpelled, Attribute.Writable]⟩
      named := ⟨"A", rfl⟩ }
  exact ⟨h, ofBytes_toBytes oddlySpelled h⟩

/-! ## Writing what was read -/

/-- The number of slots, slot 0 included, that the bytes of a class announce for its constants. -/
def announcedSlots (bytes : List UInt8) : Nat :=
  match bytes.drop 8 with
  | a :: b :: _ => (word a b).toNat
  | _ => 0

theorem announcedSlots_eq {head : List UInt8} (h : head.length = 8) (announced : UInt16) (rest : List UInt8) :
    announcedSlots (head ++ (u16 announced ++ rest)) = announced.toNat := by
  rw [announcedSlots, ← h, List.drop_left]
  show (word _ _).toNat = announced.toNat
  rw [word_div_mod]

/-- What stands in front of the constants. -/
def headBytes (c : ClassFile) : List UInt8 :=
  u32 magic ++ (u16 c.minorVersion ++ u16 c.majorVersion)

theorem toBytes_eq_parts (c : ClassFile) :
    c.toBytes = c.headBytes ++ (count16 c.pool.count ++
      (c.pool.slots.toList.flatMap Constant.toBytes ++ c.tailBytes)) := by
  simp only [toBytes, headBytes, tailBytes, ConstantPool.toBytes, List.append_assoc]

/-- Everything in the bytes of a class that was read is spelled as it would be written, but for the number of
slots, which is the announced one. -/
theorem bytes_of_ofBytes {bytes : List UInt8} {c : ClassFile} (h : ofBytes bytes = .ok c) :
    ∃ announced : UInt16,
      bytes = c.headBytes ++ (u16 announced ++ (c.pool.slots.toList.flatMap Constant.toBytes ++ c.tailBytes)) ∧
      (∃ added, c.pool.slots.toList = .unusable :: added ∧ Tiled added ∧
        (added.length = announced.toNat - 1 ∨ (added.length = announced.toNat - 1 + 1 ∧ EndsWide added))) := by
  obtain ⟨r₀, h₀, h, -⟩ := ofBytes_eq_ok.mp h
  obtain ⟨minorVersion, r₁, h₁, h⟩ := bind_eq_ok.mp h
  obtain ⟨majorVersion, r₂, h₂, h⟩ := bind_eq_ok.mp h
  obtain ⟨pool, r₃, h₃, h⟩ := bind_eq_ok.mp h
  obtain ⟨access, r₄, h₄, h⟩ := bind_eq_ok.mp h
  obtain ⟨thisClass, r₅, h₅, h⟩ := bind_eq_ok.mp h
  obtain ⟨superClass, r₆, h₆, h⟩ := bind_eq_ok.mp h
  obtain ⟨interfaces, r₇, h₇, h⟩ := bind_eq_ok.mp h
  obtain ⟨fields, r₈, h₈, h⟩ := bind_eq_ok.mp h
  obtain ⟨methods, r₉, h₉, h⟩ := bind_eq_ok.mp h
  obtain ⟨attributes, r₁₀, h₁₀, hp⟩ := bind_eq_ok.mp h
  obtain ⟨rfl, rfl⟩ := pure_eq_ok.mp hp
  obtain ⟨announced, hpool, htiled, -⟩ := ConstantPool.pool_eq_ok h₃
  refine ⟨announced, ?_, htiled⟩
  rw [spelled_u4 bytes _ r₀ h₀, spelled_u2 r₀ _ r₁ h₁, spelled_u2 r₁ _ r₂ h₂, hpool, spelled_u2 r₃ _ r₄ h₄,
    spelled_u2 r₄ _ r₅ h₅, spelled_u2 r₅ _ r₆ h₆, spelled_counted spelled_u2 r₆ _ r₇ h₇,
    spelled_counted spelled_member r₇ _ r₈ h₈, spelled_counted spelled_member r₈ _ r₉ h₉,
    spelled_counted spelled_attribute r₉ _ [] h₁₀]
  simp only [headBytes, tailBytes, countedBytes, List.append_assoc, List.append_nil]

end ClassFile

/-! ### Where the announced slots end -/

theorem isWide_getLast_of_tiled {slots : List Constant} (h : Tiled slots) :
    ∀ {c : Constant}, slots.getLast? = some c → c.isWide = false := by
  induction h with
  | nil =>
    intro c hc
    cases hc
  | @narrow d rest hw _ _ ih =>
    intro c hc
    cases rest with
    | nil =>
      cases hc
      exact hw
    | cons e rest => exact ih hc
  | @wide d rest _ _ ih =>
    intro c hc
    cases rest with
    | nil =>
      cases hc
      rfl
    | cons e rest => exact ih hc

/-- The last announced slot holds a wide constant exactly when that constant takes a slot more. -/
theorem count_eq_announced_iff {slots added : List Constant} {n : Nat} (hslots : slots = .unusable :: added)
    (ht : Tiled added) (hn : 0 < n)
    (hlen : added.length = n - 1 ∨ (added.length = n - 1 + 1 ∧ EndsWide added)) :
    slots.length = n ↔ ∀ c, slots[n - 1]? = some c → c.isWide = false := by
  subst hslots
  rcases hlen with hlen | ⟨hlen, front, c, rfl, hc⟩
  · refine iff_of_true (by simp only [List.length_cons]; omega) fun c hc => ?_
    have hlast : (Constant.unusable :: added).getLast? = some c := by
      rw [List.getLast?_eq_getElem?, List.length_cons, Nat.add_sub_cancel, hlen, hc]
    cases added with
    | nil =>
      cases hlast
      rfl
    | cons d rest => exact isWide_getLast_of_tiled ht hlast
  · simp only [List.length_append, List.length_cons, List.length_nil] at hlen
    refine iff_of_false (by simp only [List.length_cons, List.length_append, List.length_nil]; omega) fun h => ?_
    have hget : (Constant.unusable :: (front ++ [c, .unusable]))[n - 1]? = some c := by
      have : n - 1 = front.length + 1 := by omega
      rw [this, List.getElem?_cons_succ, List.getElem?_append_right (Nat.le_refl _), Nat.sub_self]
      rfl
    rw [h c hget] at hc
    cases hc

theorem u16_injective {m n : UInt16} (h : u16 m = u16 n) : m = n := by
  have hm := reads_u2 m []
  rw [h, reads_u2 n []] at hm
  cases hm
  rfl

namespace ClassFile

/-- A class that was read has constants, since it has a name. -/
theorem announced_pos {c : ClassFile} {added : List Constant} {n : Nat} {name : String}
    (hslots : c.pool.slots.toList = .unusable :: added)
    (hlen : added.length = n - 1 ∨ (added.length = n - 1 + 1 ∧ EndsWide added)) (hname : c.name = .ok name) :
    0 < n := by
  refine Nat.pos_of_ne_zero fun hn => ?_
  have hadded : added = [] := by
    rcases hlen with hlen | ⟨hlen, front, d, rfl, -⟩
    · exact List.eq_nil_of_length_eq_zero (by omega)
    · simp only [List.length_append, List.length_cons, List.length_nil] at hlen
      omega
  have hget : c.pool.get? c.thisClass = none := by
    have hlist : c.pool.slots = #[.unusable] := Array.toList_inj.mp (by rw [hslots, hadded])
    rw [ConstantPool.get?, hlist]
    cases c.thisClass.toNat <;> rfl
  rw [ClassFile.name, ConstantPool.className, hget] at hname
  cases hname

/-- **Writing undoes reading**, exactly for the classes whose constants fill the announced slots; and the only way
not to fill them is a long or a double in the last one. Nothing else in the bytes can drift: not the spelling of
texts, not bit patterns, not payloads that are carried along. -/
theorem toBytes_eq_iff_of_ofBytes {bytes : List UInt8} {c : ClassFile} (h : ofBytes bytes = .ok c) :
    (c.toBytes = bytes ↔ c.pool.count = announcedSlots bytes) ∧
      (c.pool.count = announcedSlots bytes ↔
        ∀ k, c.pool.slots[announcedSlots bytes - 1]? = some k → k.isWide = false) := by
  obtain ⟨announced, hbytes, added, hslots, ht, hlen⟩ := bytes_of_ofBytes h
  obtain ⟨-, -, -, name, hname⟩ := ofBytes_eq_ok.mp h
  have hpos := announced_pos hslots hlen hname
  have hannounced : announcedSlots bytes = announced.toNat := by
    rw [hbytes]
    exact announcedSlots_eq rfl announced _
  have hcount : c.pool.count = added.length + 1 := by
    rw [ConstantPool.count, ← Array.length_toList, hslots, List.length_cons]
  rw [hannounced]
  constructor
  · have hwritten : c.toBytes = bytes ↔ UInt16.ofNat c.pool.count = announced := by
      rw [toBytes_eq_parts, hbytes, List.append_cancel_left_eq, List.append_cancel_right_eq, count16]
      exact ⟨u16_injective, congrArg u16⟩
    have hlt := announced.toNat_lt
    rw [hwritten, ← UInt16.toNat_inj, UInt16.toNat_ofNat']
    -- the number of slots is at most one above a 16-bit number, so it does not come round to it
    omega
  · rw [ConstantPool.count, ← Array.length_toList, count_eq_announced_iff hslots ht hpos hlen]
    simp only [Array.getElem?_toList]

/-- The bytes of `oddlySpelled`. -/
def oddlySpelledBytes : List UInt8 :=
  [0xCA, 0xFE, 0xBA, 0xBE, 0x00, 0x00, 0x00, 0x34, 0x00, 0x08, 0x07, 0x00, 0x02, 0x01, 0x00, 0x02, 0xC1, 0x81, 0x01,
    0x00, 0x03, 0xED, 0xA0, 0x80, 0x05, 0xFF, 0xFF, 0xFF, 0xFF, 0xFF, 0xFF, 0xFF, 0xFF, 0x06, 0x7F, 0xF0, 0x00, 0x00,
    0x00, 0x00, 0x00, 0x01, 0x00, 0x21, 0x00, 0x01, 0x00, 0x00, 0x00, 0x01, 0x00, 0x01, 0x00, 0x01, 0x00, 0x02, 0x00,
    0x02, 0x00, 0x03, 0x00, 0x01, 0x00, 0x03, 0x00, 0x00, 0x00, 0x01, 0xFF, 0x00, 0x00, 0x00, 0x01, 0x00, 0x02, 0x00,
    0x00, 0x00, 0x03, 0x01, 0x02, 0x03]

theorem oddlySpelled_writes_back :
    ofBytes oddlySpelledBytes = .ok oddlySpelled ∧ announcedSlots oddlySpelledBytes = 8 ∧
      oddlySpelled.pool.count = 8 ∧ oddlySpelled.toBytes = oddlySpelledBytes := by
  have h : ofBytes oddlySpelledBytes = .ok oddlySpelled := rfl
  exact ⟨h, rfl, rfl, (toBytes_eq_iff_of_ofBytes h).1.mpr rfl⟩

end ClassFile

end ClassWeaver
