import ClassWeaver.Proofs.ClassFile.RoundTrip

/-!
# Announced and filled slots

A class announces how many slots its constants fill. Reading takes one constant after the other until the announced
slots are used up, and looks at the room that is left before a constant, not behind it. A long or a double that starts
in the last announced slot therefore gets a second slot that nobody announced, and writing announces that slot too.

## Contents

* `lastAnnounced` — the constant in the last announced slot decides.
* `count_of_ofBytes` — how many slots a class has that was read, and how many it announces when it is written.
* `longAtTheEnd` — a class of five announced slots that has six.
-/

namespace ClassWeaver

open Bytes Decoder

/-- The constant in the last announced slot takes the slots up to the end. -/
theorem lastAnnounced {slots added : List Constant} {n : Nat} (hslots : slots = .unusable :: added) (ht : Tiled added)
    (hn : 0 < n) (hlen : added.length = n - 1 ∨ (added.length = n - 1 + 1 ∧ EndsWide added)) :
    ∃ k, slots[n - 1]? = some k ∧ slots.length + 1 = n + k.width := by
  have hin : n - 1 < slots.length := by
    subst hslots
    rw [List.length_cons]
    omega
  refine ⟨slots[n - 1], List.getElem?_eq_getElem hin, ?_⟩
  have hexact := count_eq_announced_iff hslots ht hn hlen
  have hcount : slots.length = n ∨ slots.length = n + 1 := by
    subst hslots
    rw [List.length_cons]
    omega
  cases hwide : slots[n - 1].isWide with
  | false =>
    have hfilled : slots.length = n := by
      refine hexact.mpr fun k hk => ?_
      rw [List.getElem?_eq_getElem hin] at hk
      rw [← Option.some.inj hk, hwide]
    rw [Constant.width, hwide, hfilled]
    rfl
  | true =>
    -- a wide constant there cannot be all that was announced
    have hmore : slots.length ≠ n := by
      intro hfilled
      have := hexact.mp hfilled _ (List.getElem?_eq_getElem hin)
      rw [hwide] at this
      cases this
    rw [Constant.width, hwide, hcount.resolve_left hmore]
    rfl

namespace ClassFile

/-- What a class announces is its number of slots, of which two bytes are written. -/
theorem announcedSlots_toBytes (c : ClassFile) : announcedSlots c.toBytes = c.pool.count % 65536 := by
  rw [toBytes_eq_parts, count16, announcedSlots_eq rfl, UInt16.toNat_ofNat']

/-- **The slots of a class that was read** are those it announces, and one more exactly if a long or a double stands in
the last of them. When the class is written it announces the slots that it has, modulo 65536. -/
theorem count_of_ofBytes {bytes : List UInt8} {c : ClassFile} (h : ofBytes bytes = .ok c) :
    (∃ k, c.pool.slots[announcedSlots bytes - 1]? = some k ∧
      c.pool.count + 1 = announcedSlots bytes + k.width) ∧
      announcedSlots c.toBytes = c.pool.count % 65536 := by
  obtain ⟨announced, hbytes, added, hslots, ht, hlen⟩ := bytes_of_ofBytes h
  obtain ⟨-, -, -, name, hname⟩ := ofBytes_eq_ok.mp h
  have hannounced : announcedSlots bytes = announced.toNat := by
    rw [hbytes]
    exact announcedSlots_eq rfl announced _
  obtain ⟨k, hk, hcount⟩ := lastAnnounced hslots ht (announced_pos hslots hlen hname) hlen
  refine ⟨⟨k, ?_, ?_⟩, announcedSlots_toBytes c⟩
  · rw [hannounced, ← Array.getElem?_toList, hk]
  · rw [hannounced, ConstantPool.count, ← Array.length_toList, hcount]

/-- A class named `A` that announces five slots and has a long in the last of them. -/
def longAtTheEnd : List UInt8 :=
  [0xCA, 0xFE, 0xBA, 0xBE, 0x00, 0x00, 0x00, 0x34, 0x00, 0x05, 0x07, 0x00, 0x02, 0x01, 0x00, 0x01, 0x41, 0x03, 0x00,
    0x00, 0x00, 0x07, 0x05, 0x00, 0x00, 0x00, 0x00, 0x00, 0x00, 0x00, 0x2A, 0x00, 0x21, 0x00, 0x01, 0x00, 0x00, 0x00,
    0x00, 0x00, 0x00, 0x00, 0x00, 0x00, 0x00]

/-- The class is read, has a slot more than it announces, and announces that slot when it is written. -/
theorem longAtTheEnd_overfills :
    ∃ c, ofBytes longAtTheEnd = .ok c ∧ announcedSlots longAtTheEnd = 5 ∧ c.pool.count = 6 ∧
      announcedSlots c.toBytes = 6 :=
  ⟨_, rfl, rfl, rfl, rfl⟩

/-- What `count_of_ofBytes` says of that class. -/
theorem count_longAtTheEnd :
    ∃ c, ofBytes longAtTheEnd = .ok c ∧
      (∃ k, c.pool.slots[announcedSlots longAtTheEnd - 1]? = some k ∧
        c.pool.count + 1 = announcedSlots longAtTheEnd + k.width) ∧
      announcedSlots c.toBytes = c.pool.count % 65536 := by
  have h : ∃ c, ofBytes longAtTheEnd = .ok c := ⟨_, rfl⟩
  obtain ⟨c, hc⟩ := h
  exact ⟨c, hc, count_of_ofBytes hc⟩

end ClassFile

end ClassWeaver
