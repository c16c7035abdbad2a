import ClassWeaver.Proofs.Bytes.Guarantees
import ClassWeaver.Proofs.ClassFile.ModifiedUtf8
import ClassWeaver.Proofs.ClassFile.PoolGrowth
import ClassWeaver.Proofs.ClassFile.RoundTrip

/-!
# Classes within the limits of the format

A class that was read is within the limits of the format: each list and each payload came behind a count, and a count
has 16 or 32 bits. The one limit that reading does not keep is that of the constant pool, whose last constant may take
a slot too many. Adding a constant that can be written keeps a pool within its limits.

## Contents

* `ensures_attribute`, `ensures_member` — what is known of attributes and members that were read.
* `ClassFile.Filled`, `filled_of_ofBytes` — what is known of a class that was read.
* `ClassFile.writable_of_ofBytes`, `Writable.read_iff` — a class that was read can be written and read again.
* `Tiled.append`, `WellFormed.add`, `WellFormed.addUtf8` — a pool with one constant more.
* `Addition.KeepsLimits` — a pool with several constants more.
-/

namespace ClassWeaver

open Bytes
open Decoder (ensures_true ensures_counted)

/-! ## What was read -/

theorem ensures_attribute : Decoder.Ensures Attribute.decode Attribute.Writable := by
  have hsized : Decoder.Ensures Decoder.sizedRun fun bytes => bytes.length < 4294967296 := by
    refine (ensures_true _).bind fun n _ bytes taken rest h => ?_
    rw [(Decoder.run_eq_ok h).1]
    exact n.toNat_lt
  exact (ensures_true _).bind fun _ _ => hsized.bind_pure fun _ h => h

theorem ensures_member : Decoder.Ensures Member.decode Member.Writable :=
  (ensures_true _).bind fun _ _ => (ensures_true _).bind fun _ _ => (ensures_true _).bind fun _ _ =>
    (ensures_counted ensures_attribute).bind_pure fun _ hattributes => hattributes

namespace ConstantPool

/-- What reading keeps of the limits of a pool: there may be one slot more than can be announced. -/
structure Filled (p : ConstantPool) : Prop where
  tiled : ∃ added, p.slots.toList = .unusable :: added ∧ Tiled added
  writable : ∀ c ∈ p.slots.toList, c.Writable
  count_le : p.count ≤ 65536

theorem ensures_pool : Decoder.Ensures decode Filled := by
  intro bytes p rest h
  obtain ⟨announced, -, ⟨added, hslots, htiled, hlen⟩, hwritable⟩ := pool_eq_ok h
  refine ⟨⟨added, hslots, htiled⟩, hwritable, ?_⟩
  have hannounced := announced.toNat_lt
  rw [count, ← Array.length_toList, hslots, List.length_cons]
  omega

theorem Filled.wellFormed {p : ConstantPool} (h : p.Filled) (hcount : p.count ≤ 65535) : p.WellFormed :=
  ⟨h.tiled, h.writable, hcount⟩

end ConstantPool

namespace ClassFile

/-- What reading keeps of the limits of a class. -/
structure Filled (c : ClassFile) : Prop where
  pool : c.pool.Filled
  interfaces : c.interfaces.length ≤ 65535
  fields : WritableList Member.Writable c.fields
  methods : WritableList Member.Writable c.methods
  attributes : WritableList Attribute.Writable c.attributes

theorem ensures_body : Decoder.Ensures decodeBody Filled := by
  refine (ensures_true _).bind fun _ _ => (ensures_true _).bind fun _ _ => ?_
  refine ConstantPool.ensures_pool.bind fun _ hpool => ?_
  refine (ensures_true _).bind fun _ _ => (ensures_true _).bind fun _ _ => (ensures_true _).bind fun _ _ => ?_
  refine (ensures_counted (ensures_true _)).bind fun _ hinterfaces => ?_
  refine (ensures_counted ensures_member).bind fun _ hfields => ?_
  refine (ensures_counted ensures_member).bind fun _ hmethods => ?_
  exact (ensures_counted ensures_attribute).bind_pure fun _ hattributes =>
    ⟨hpool, hinterfaces.1, hfields, hmethods, hattributes⟩

theorem filled_of_ofBytes {bytes : List UInt8} {c : ClassFile} (h : ofBytes bytes = .ok c) : c.Filled := by
  obtain ⟨rest, -, hbody, -⟩ := ofBytes_eq_ok.mp h
  exact ensures_body rest c [] hbody

/-- **A class that was read can be written and read again**, if its slots can be announced. -/
theorem writable_of_ofBytes {bytes : List UInt8} {c : ClassFile} (h : ofBytes bytes = .ok c)
    (hcount : c.pool.count ≤ 65535) : c.Writable := by
  have hfilled := filled_of_ofBytes h
  obtain ⟨-, -, -, hname⟩ := ofBytes_eq_ok.mp h
  exact ⟨hfilled.pool.wellFormed hcount, hfilled.interfaces, hfilled.fields, hfilled.methods, hfilled.attributes, hname⟩

/-- The bytes of a class within the limits are read as that class and as no other. -/
theorem Writable.read_iff {c c' : ClassFile} (h : c.Writable) : ofBytes c.toBytes = .ok c' ↔ c = c' := by
  have hbody := reads_body h []
  rw [List.append_nil] at hbody
  have hread : ofBytes c.toBytes = .ok c :=
    ofBytes_eq_ok.mpr ⟨c.bodyBytes, Decoder.reads_u4 magic c.bodyBytes, hbody, h.named⟩
  rw [hread, Except.ok.injEq]

end ClassFile

/-! ## One constant more -/

theorem Tiled.append {slots more : List Constant} (h : Tiled slots) (hmore : Tiled more) : Tiled (slots ++ more) := by
  induction h with
  | nil => exact hmore
  | narrow hwide hne _ ih => exact .narrow hwide hne ih
  | wide hwide _ ih => exact .wide hwide ih

namespace ConstantPool

variable {p q : ConstantPool}

/-- **An addition keeps a pool within the limits.** -/
theorem WellFormed.add (h : p.WellFormed) {c : Constant} {result : Except Defect UInt16} (hc : c.Writable)
    (hne : c ≠ .unusable) (hadd : ConstantPool.add c p = (result, q)) : q.WellFormed := by
  have hcount := count_of_add hadd
  have hle := h.count_le
  rw [ConstantPool.add] at hadd
  split at hadd
  · cases hadd
    exact h
  · split at hadd
    · cases hadd
      exact h
    · cases hadd
      obtain ⟨added, hslots, htiled⟩ := h.tiled
      -- a wide constant brings its second slot along
      have hnew : ∃ new, (if c.isWide then (p.slots.push c).push .unusable else p.slots.push c).toList =
          p.slots.toList ++ new ∧ Tiled new ∧ ∀ d ∈ new, d.Writable := by
        split
        · rename_i hwide
          refine ⟨[c, .unusable], by simp, .wide hwide .nil, ?_⟩
          exact List.forall_mem_cons.mpr ⟨hc, List.forall_mem_singleton.mpr trivial⟩
        · rename_i hnarrow
          exact ⟨[c], by simp, .narrow (Bool.eq_false_iff.mpr hnarrow) hne .nil, List.forall_mem_singleton.mpr hc⟩
      obtain ⟨new, hnew, htiling, hwritable⟩ := hnew
      refine ⟨⟨added ++ new, ?_, htiled.append htiling⟩, ?_, by omega⟩
      · dsimp only
        rw [hnew, hslots, List.cons_append]
      · dsimp only
        rw [hnew, List.forall_mem_append]
        exact ⟨h.writable, hwritable⟩

/-- A text that is added has to fit behind a count of 16 bits. -/
theorem WellFormed.addUtf8 (h : p.WellFormed) {text : String} {result : Except Defect UInt16}
    (htext : (ModifiedUtf8.encode text).length ≤ 65535) (hadd : ConstantPool.addUtf8 text p = (result, q)) :
    q.WellFormed := by
  have hwritable : (Constant.utf8 (.ofText text)).Writable :=
    ⟨Nat.lt_succ_of_le htext, Utf8Constant.ofRaw_ofText text⟩
  exact h.add hwritable nofun hadd

/-! ### Several constants -/

namespace Addition

variable {α β : Type}

/-- An addition that keeps a pool within the limits, whether it succeeds or fails. -/
def KeepsLimits (m : Addition α) : Prop :=
  ∀ ⦃p q : ConstantPool⦄ ⦃result⦄, p.WellFormed → m p = (result, q) → q.WellFormed

theorem KeepsLimits.bind {m : Addition α} {f : α → Addition β} (hm : KeepsLimits m) (hf : ∀ x, KeepsLimits (f x)) :
    KeepsLimits (m >>= f) :=
  Keeps.bind hm hf

theorem keepsLimits_add {c : Constant} (hc : c.Writable) (hne : c ≠ .unusable) : KeepsLimits (add c) :=
  fun _ _ _ hp h => hp.add hc hne h

theorem keepsLimits_addUtf8 {text : String} (h : (ModifiedUtf8.encode text).length ≤ 65535) : KeepsLimits (addUtf8 text) :=
  fun _ _ _ hp hadd => hp.addUtf8 h hadd

variable {owner name descriptor : String}

theorem keepsLimits_addClass (h : (ModifiedUtf8.encode owner).length ≤ 65535) : KeepsLimits (addClass owner) :=
  (keepsLimits_addUtf8 h).bind fun _ => keepsLimits_add trivial nofun

theorem keepsLimits_addNameAndType (hname : (ModifiedUtf8.encode name).length ≤ 65535)
    (hdescriptor : (ModifiedUtf8.encode descriptor).length ≤ 65535) : KeepsLimits (addNameAndType name descriptor) :=
  (keepsLimits_addUtf8 hname).bind fun _ => (keepsLimits_addUtf8 hdescriptor).bind fun _ => keepsLimits_add trivial nofun

theorem keepsLimits_addFieldRef (howner : (ModifiedUtf8.encode owner).length ≤ 65535)
    (hname : (ModifiedUtf8.encode name).length ≤ 65535) (hdescriptor : (ModifiedUtf8.encode descriptor).length ≤ 65535) :
    KeepsLimits (addFieldRef owner name descriptor) :=
  (keepsLimits_addClass howner).bind fun _ => (keepsLimits_addNameAndType hname hdescriptor).bind fun _ =>
    keepsLimits_add trivial nofun

theorem keepsLimits_addMethodRef (howner : (ModifiedUtf8.encode owner).length ≤ 65535)
    (hname : (ModifiedUtf8.encode name).length ≤ 65535) (hdescriptor : (ModifiedUtf8.encode descriptor).length ≤ 65535)
    (ofInterface : Bool) : KeepsLimits (addMethodRef owner name descriptor ofInterface) := by
  refine (keepsLimits_addClass howner).bind fun _ => (keepsLimits_addNameAndType hname hdescriptor).bind fun _ => ?_
  cases ofInterface with
  | false => exact keepsLimits_add trivial nofun
  | true => exact keepsLimits_add trivial nofun

end Addition

end ConstantPool

end ClassWeaver
