import ClassWeaver.ClassFile.Edit
import ClassWeaver.Proofs.Bytes.Reading
import ClassWeaver.Proofs.Edits

/-!
# Growing a constant pool

An addition puts constants behind those that are there, whether it succeeds or fails, so an index that is in use
goes on meaning what it meant. An index that an addition returns means the constant that was asked for.

## Contents

* `Extends`, `Extends.utf8`, `Extends.hasText_eq` — a pool with more constants, and what stays true in it.
* `Addition.bind_eq_ok`, `Addition.bind_eq_error` — additions in a row, and where they fail.
* `add_eq`, `add_extends`, `slot_of_add`, `count_of_add`, `addUtf8_eq_ok` — one addition.
* `add_again` — an addition that is made once more.
* `Addition.Stable` — additions of which all this holds, however many constants they add.
* `Addition.Keeps` — additions that keep a property of pools.
* `reference_of_addFieldRef`, `reference_of_addMethodRef` — what the references mean that are added.
* `ClassEdit.onPool_eq_ok` — an addition as an edit of a class.
-/

namespace ClassWeaver.ConstantPool

open Bytes

variable {p q r : ConstantPool}

/-! ## More constants -/

/-- `q` is `p` with constants appended. -/
def Extends (p q : ConstantPool) : Prop :=
  p.slots.toList <+: q.slots.toList

theorem Extends.refl (p : ConstantPool) : p.Extends p :=
  List.prefix_refl _

theorem Extends.of_extends (hpq : p.Extends q) (hqr : q.Extends r) : p.Extends r :=
  List.IsPrefix.trans hpq hqr

/-- A slot keeps its constant. -/
theorem Extends.getElem? (h : p.Extends q) {i : Nat} {c : Constant} (hi : p.slots[i]? = some c) :
    q.slots[i]? = some c := by
  obtain ⟨more, hmore⟩ := h
  rw [← Array.getElem?_toList] at hi ⊢
  rw [← hmore, List.getElem?_append_left (List.getElem?_eq_some_iff.mp hi).1, hi]

theorem get?_eq_some_iff {i : UInt16} {c : Constant} :
    p.get? i = some c ↔ p.slots[i.toNat]? = some c ∧ c ≠ .unusable := by
  rw [get?]
  split
  · rename_i h
    rw [h]
    refine iff_of_false nofun ?_
    rintro ⟨hc, hne⟩
    exact hne (Option.some.inj hc).symm
  · rename_i h
    rw [h]
    exact iff_of_false nofun fun h => nomatch h.1
  · rename_i c' hne h
    rw [h]
    constructor
    · rintro hc
      exact ⟨hc, fun heq => hne (by rw [Option.some.inj hc, heq])⟩
    · exact And.left

theorem Extends.get? (h : p.Extends q) {i : UInt16} {c : Constant} (hi : p.get? i = some c) : q.get? i = some c := by
  rw [get?_eq_some_iff] at hi ⊢
  exact ⟨h.getElem? hi.1, hi.2⟩

theorem utf8_eq_ok {i : UInt16} {text : String} :
    p.utf8 i = .ok text ↔ ∃ value, p.get? i = some (.utf8 value) ∧ value.text = text := by
  rw [utf8]
  split
  · rename_i value hvalue
    rw [hvalue]
    simp
  · rename_i hnot
    refine iff_of_false nofun ?_
    rintro ⟨value, hvalue, -⟩
    exact hnot value hvalue

/-- **An index that means a text goes on meaning it.** -/
theorem Extends.utf8 (h : p.Extends q) {i : UInt16} {text : String} (hi : p.utf8 i = .ok text) :
    q.utf8 i = .ok text := by
  obtain ⟨value, hvalue, htext⟩ := utf8_eq_ok.mp hi
  exact utf8_eq_ok.mpr ⟨value, h.get? hvalue, htext⟩

theorem Extends.className (h : p.Extends q) {i : UInt16} {name : String} (hi : p.className i = .ok name) :
    q.className i = .ok name := by
  rw [ConstantPool.className] at hi
  split at hi
  · rename_i index hindex
    rw [ConstantPool.className, h.get? hindex]
    exact h.utf8 hi
  · cases hi

theorem Extends.nameAndType (h : p.Extends q) {i : UInt16} {name descriptor : String}
    (hi : p.nameAndType i = .ok (name, descriptor)) : q.nameAndType i = .ok (name, descriptor) := by
  rw [ConstantPool.nameAndType] at hi
  split at hi
  · rename_i n d hpair
    obtain ⟨name', hname, hi⟩ := except_bind_eq_ok.mp hi
    obtain ⟨descriptor', hdescriptor, hi⟩ := except_bind_eq_ok.mp hi
    cases hi
    rw [ConstantPool.nameAndType, h.get? hpair]
    dsimp only
    rw [h.utf8 hname, h.utf8 hdescriptor]
    rfl
  · cases hi

/-- An index that means a text is one of the pool. -/
theorem lt_count_of_utf8 {i : UInt16} {text : String} (h : p.utf8 i = .ok text) : i.toNat < p.count := by
  obtain ⟨value, hvalue, -⟩ := utf8_eq_ok.mp h
  obtain ⟨hlt, -⟩ := Array.getElem?_eq_some_iff.mp (get?_eq_some_iff.mp hvalue).1
  exact hlt

/-- An index of the smaller pool means the same in both, also where it means no text. -/
theorem Extends.utf8_eq (h : p.Extends q) {i : UInt16} (hi : i.toNat < p.count) : q.utf8 i = p.utf8 i := by
  have hp : p.slots[i.toNat]? = some p.slots[i.toNat] := Array.getElem?_eq_getElem hi
  have hslot : q.slots[i.toNat]? = p.slots[i.toNat]? := by
    rw [h.getElem? hp, hp]
  rw [ConstantPool.utf8, ConstantPool.utf8, ConstantPool.get?, ConstantPool.get?, hslot]

theorem Extends.hasText_eq (h : p.Extends q) {i : UInt16} (hi : i.toNat < p.count) (text : String) :
    q.hasText i text = p.hasText i text := by
  rw [ConstantPool.hasText, ConstantPool.hasText, h.utf8_eq hi]

theorem hasText_eq_true_iff {i : UInt16} {text : String} : p.hasText i text = true ↔ p.utf8 i = .ok text := by
  rw [hasText]
  cases p.utf8 i with
  | ok t => simp
  | error e => simp

/-! ## Additions in a row -/

theorem Addition.bind_eq_ok {α β : Type} {m : Addition α} {f : α → Addition β} {y : β} :
    (m >>= f) p = (.ok y, r) ↔ ∃ x q, m p = (.ok x, q) ∧ f x q = (.ok y, r) :=
  Edits.bind_eq_ok

/-- A sequence fails where one of its steps does. -/
theorem Addition.bind_eq_error {α β : Type} {m : Addition α} {f : α → Addition β} {e : Defect}
    (h : (m >>= f) p = (.error e, r)) : m p = (.error e, r) ∨ ∃ x q, m p = (.ok x, q) ∧ f x q = (.error e, r) :=
  Edits.bind_eq_error h

/-- A first step that does not touch the pool fails alone or lets the rest fail. -/
theorem Addition.lift_bind_eq_error {α β : Type} {result : Except Defect α} {f : α → Addition β} {e : Defect}
    (h : (liftM result >>= f) p = (.error e, r)) : result = .error e ∨ ∃ x, result = .ok x ∧ f x p = (.error e, r) := by
  rcases bind_eq_error h with h | ⟨x, q, hx, h⟩
  · exact .inl (congrArg Prod.fst h)
  · obtain ⟨hresult, rfl⟩ := Edits.lift_eq_ok.mp hx
    exact .inr ⟨x, hresult, h⟩

/-- A first step that does not touch the pool. -/
theorem Addition.lift_bind_eq_ok {α β : Type} {result : Except Defect α} {f : α → Addition β} {y : β} :
    (liftM result >>= f) p = (.ok y, r) ↔ ∃ x, result = .ok x ∧ f x p = (.ok y, r) :=
  Edits.lift_bind_eq_ok

theorem Addition.pure_eq_ok {α : Type} {x y : α} : (pure x : Addition α) p = (.ok y, q) ↔ x = y ∧ p = q :=
  Edits.pure_eq_ok

/-! ## One addition -/

/-- An addition searches the list of slots. -/
theorem add_eq (c : Constant) (p : ConstantPool) : add c p =
    match p.slots.toList.findIdx? (· == c) with
    | some i => (.ok (UInt16.ofNat i), p)
    | none =>
      if p.count + c.width > 65535 then (.error .poolOverflow, p)
      else
        (.ok (UInt16.ofNat p.count), ⟨if c.isWide then (p.slots.push c).push .unusable else p.slots.push c⟩) := by
  rw [← List.findIdx?_toArray]
  rfl

/-- A constant of one slot that is not there yet is appended. -/
theorem add_of_notMem {c : Constant} {n : Nat} (h : c ∉ p.slots.toList) (hwide : c.isWide = false)
    (hcount : p.count = n) (hroom : n < 65535) : add c p = (.ok (UInt16.ofNat n), ⟨p.slots.push c⟩) := by
  have hnone : p.slots.toList.findIdx? (· == c) = none := by
    rw [List.findIdx?_eq_none_iff]
    intro d hd
    rw [beq_eq_false_iff_ne]
    rintro rfl
    exact h hd
  have hwidth : c.width = 1 := by rw [Constant.width, hwide]; rfl
  rw [add_eq, hnone]
  dsimp only
  rw [hwidth, hcount, if_neg (by omega), hwide]
  rfl

theorem add_extends (c : Constant) (p : ConstantPool) : p.Extends (add c p).2 := by
  rw [add]
  split
  · exact .refl p
  · split
    · exact .refl p
    · refine ⟨if c.isWide then [c, .unusable] else [c], ?_⟩
      dsimp only
      split <;> simp

theorem extends_of_addUtf8 {text : String} {result : Except Defect UInt16} (h : addUtf8 text p = (result, q)) :
    p.Extends q := by
  have hextends := add_extends (.utf8 (.ofText text)) p
  rwa [← addUtf8, h] at hextends

/-- **The index of an addition is that of the constant**, as long as every slot has a number of 16 bits. -/
theorem slot_of_add {c : Constant} {i : UInt16} (hp : p.count ≤ 65536) (h : add c p = (.ok i, q)) :
    q.slots[i.toNat]? = some c := by
  rw [add] at h
  split at h
  · rename_i k hk
    cases h
    obtain ⟨hlt, heq, -⟩ := Array.findIdx?_eq_some_iff_getElem.mp hk
    rw [count] at hp
    rw [toNat_ofNat16 (by omega), Array.getElem?_eq_getElem hlt, eq_of_beq heq]
  · split at h
    · cases h
    · rename_i hroom
      cases h
      have hwidth : 1 ≤ c.width := by
        rw [Constant.width]
        split <;> decide
      rw [toNat_ofNat16 (by omega), count]
      dsimp only
      split
      · rw [Array.getElem?_push, if_neg (by rw [Array.size_push]; omega), Array.getElem?_push, if_pos rfl]
      · rw [Array.getElem?_push, if_pos rfl]

/-- An addition takes no slot behind the last one that there may be. -/
theorem count_of_add {c : Constant} {result : Except Defect UInt16} (h : add c p = (result, q)) :
    q.count ≤ max p.count 65535 := by
  rw [add] at h
  split at h
  · cases h
    exact Nat.le_max_left _ _
  · split at h
    · cases h
      exact Nat.le_max_left _ _
    · rename_i hroom
      cases h
      rw [Constant.width] at hroom
      rw [count] at hroom ⊢
      cases hwide : c.isWide with
      | true =>
        rw [hwide, if_pos rfl] at hroom
        simp only [if_true, Array.size_push]
        omega
      | false =>
        rw [hwide, if_neg Bool.false_ne_true] at hroom
        simp only [Bool.false_eq_true, if_false, Array.size_push]
        omega

theorem add_eq_ok {c : Constant} {i : UInt16} (hp : p.count ≤ 65535) (h : add c p = (.ok i, q)) :
    q.slots[i.toNat]? = some c ∧ q.count ≤ 65535 := by
  have hcount := count_of_add h
  exact ⟨slot_of_add (by omega) h, by omega⟩

theorem utf8_of_addUtf8 {text : String} {i : UInt16} (hp : p.count ≤ 65536) (h : addUtf8 text p = (.ok i, q)) :
    q.utf8 i = .ok text :=
  utf8_eq_ok.mpr ⟨.ofText text, get?_eq_some_iff.mpr ⟨slot_of_add hp h, nofun⟩, rfl⟩

/-- **An index that was given out for a text means that text**, in every later pool too. -/
theorem addUtf8_eq_ok {text : String} {i : UInt16} (hp : p.count ≤ 65535) (h : addUtf8 text p = (.ok i, q)) :
    p.Extends q ∧ q.count ≤ 65535 ∧ q.utf8 i = .ok text := by
  exact ⟨extends_of_addUtf8 h, (add_eq_ok hp h).2, utf8_of_addUtf8 (Nat.le_succ_of_le hp) h⟩

/-- An addition fails only for lack of room. -/
theorem eq_poolOverflow_of_add {c : Constant} {e : Defect} (h : add c p = (.error e, q)) : e = .poolOverflow := by
  rw [add] at h
  split at h
  · cases h
  · split at h
    · cases h
      rfl
    · cases h

/-- **An addition that is made once more** finds what it added and changes nothing. -/
theorem add_again {c : Constant} {i : UInt16} (h : add c p = (.ok i, q)) (hqr : q.Extends r) :
    add c r = (.ok i, r) := by
  obtain ⟨more, hmore⟩ := hqr
  rw [add_eq] at h
  -- the first equal constant stands where it stood, as later ones come behind it
  have hfound : ∃ k, r.slots.toList.findIdx? (· == c) = some k ∧ UInt16.ofNat k = i := by
    rw [← hmore, List.findIdx?_append]
    split at h
    · rename_i k hk
      cases h
      rw [hk]
      exact ⟨k, rfl, rfl⟩
    · rename_i hnew
      split at h
      · cases h
      · cases h
        have hslots : ∃ rest, (if c.isWide = true then (p.slots.push c).push .unusable else p.slots.push c).toList =
            p.slots.toList ++ c :: rest := by
          split
          · exact ⟨[.unusable], by simp⟩
          · exact ⟨[], by simp⟩
        obtain ⟨rest, hrest⟩ := hslots
        refine ⟨p.count, ?_, rfl⟩
        dsimp only
        rw [hrest, List.findIdx?_append, hnew, List.findIdx?_cons, beq_self_eq_true, if_pos rfl]
        simp [count]
  obtain ⟨k, hk, rfl⟩ := hfound
  rw [add_eq, hk]

/-! ## Additions of several constants -/

namespace Addition

variable {α β : Type}

/-- An addition that only appends, takes no slot behind the last one that there may be, and finds everything again when
it is made once more. -/
structure Stable (m : Addition α) : Prop where
  appends : ∀ {p q result}, m p = (result, q) → p.Extends q
  count_le : ∀ {p q result}, m p = (result, q) → q.count ≤ max p.count 65535
  again : ∀ {p q r x}, m p = (.ok x, q) → q.Extends r → m r = (.ok x, r)

theorem stable_add (c : Constant) : Stable (add c) where
  appends {p q result} h := by
    have hextends := add_extends c p
    rwa [h] at hextends
  count_le h := count_of_add h
  again h hqr := add_again h hqr

/-- A step that only computes. -/
theorem stable_lift (result : Except Defect α) : Stable (liftM result) where
  appends {p q found} h := by
    cases h
    exact .refl p
  count_le {p q found} h := by
    cases h
    exact Nat.le_max_left _ _
  again {p q r x} h _ := Edits.lift_eq_ok.mpr ⟨(Edits.lift_eq_ok.mp h).1, rfl⟩

theorem stable_pure (x : α) : Stable (pure x) :=
  stable_lift (.ok x)

/-- **Stability goes through a sequence of additions.** -/
theorem Stable.bind {m : Addition α} {f : α → Addition β} (hm : Stable m) (hf : ∀ x, Stable (f x)) :
    Stable (m >>= f) where
  appends {p q result} h := by
    rw [Edits.bind_eq] at h
    cases hstep : m p with
    | mk first middle =>
      rw [hstep] at h
      cases first with
      | error e =>
        cases h
        exact hm.appends hstep
      | ok x => exact (hm.appends hstep).of_extends ((hf x).appends h)
  count_le {p q result} h := by
    rw [Edits.bind_eq] at h
    cases hstep : m p with
    | mk first middle =>
      have hfirst := hm.count_le hstep
      rw [hstep] at h
      cases first with
      | error e =>
        cases h
        exact hfirst
      | ok x =>
        have hsecond := (hf x).count_le h
        omega
  again {p q r y} h hqr := by
    obtain ⟨x, middle, hx, hy⟩ := bind_eq_ok.mp h
    have hmiddle : middle.Extends r := ((hf x).appends hy).of_extends hqr
    exact bind_eq_ok.mpr ⟨x, r, hm.again hx hmiddle, (hf x).again hy hqr⟩

theorem Stable.ite {c : Prop} [Decidable c] {m n : Addition α} (hm : Stable m) (hn : Stable n) :
    Stable (if c then m else n) := by
  split
  · exact hm
  · exact hn

/-- An addition that keeps a property of pools, whether it succeeds or fails. -/
def Keeps (P : ConstantPool → Prop) (m : Addition α) : Prop :=
  ∀ ⦃p q : ConstantPool⦄ ⦃result⦄, P p → m p = (result, q) → P q

theorem Keeps.bind {P : ConstantPool → Prop} {m : Addition α} {f : α → Addition β} (hm : Keeps P m)
    (hf : ∀ x, Keeps P (f x)) : Keeps P (m >>= f) := by
  intro p q result hp h
  rw [Edits.bind_eq] at h
  cases hstep : m p with
  | mk first middle =>
    have hmiddle := hm hp hstep
    rw [hstep] at h
    cases first with
    | error e =>
      cases h
      exact hmiddle
    | ok x => exact hf x hmiddle h

theorem stable_addUtf8 (text : String) : Stable (addUtf8 text) :=
  stable_add _

theorem stable_addClass (internalName : String) : Stable (addClass internalName) :=
  (stable_addUtf8 internalName).bind fun _ => stable_add _

theorem stable_addNameAndType (name descriptor : String) : Stable (addNameAndType name descriptor) :=
  (stable_addUtf8 name).bind fun _ => (stable_addUtf8 descriptor).bind fun _ => stable_add _

theorem stable_addFieldRef (owner name descriptor : String) : Stable (addFieldRef owner name descriptor) :=
  (stable_addClass owner).bind fun _ => (stable_addNameAndType name descriptor).bind fun _ => stable_add _

theorem stable_addMethodRef (owner name descriptor : String) (ofInterface : Bool) :
    Stable (addMethodRef owner name descriptor ofInterface) :=
  (stable_addClass owner).bind fun _ => (stable_addNameAndType name descriptor).bind fun _ => stable_add _

end Addition

/-! ## References to members -/

section References

variable {i : UInt16} {owner name descriptor : String}

theorem get?_of_add {c : Constant} (hc : c ≠ .unusable) (hp : p.count ≤ 65536) (h : add c p = (.ok i, q)) :
    q.get? i = some c :=
  get?_eq_some_iff.mpr ⟨slot_of_add hp h, hc⟩

theorem className_of_addClass (hp : p.count ≤ 65536) (h : addClass owner p = (.ok i, q)) :
    q.className i = .ok owner := by
  obtain ⟨text, middle, htext, hclass⟩ := Addition.bind_eq_ok.mp h
  have hmiddle := (Addition.stable_addUtf8 owner).count_le htext
  have hget : q.get? i = some (.classRef text) := get?_of_add (by simp) (by omega) hclass
  rw [className, hget]
  exact ((Addition.stable_add _).appends hclass).utf8 (utf8_of_addUtf8 hp htext)

theorem nameAndType_of_addNameAndType (hp : p.count ≤ 65536) (h : addNameAndType name descriptor p = (.ok i, q)) :
    q.nameAndType i = .ok (name, descriptor) := by
  obtain ⟨n, p₁, hn, h⟩ := Addition.bind_eq_ok.mp h
  obtain ⟨d, p₂, hd, hpair⟩ := Addition.bind_eq_ok.mp h
  have hp₁ := (Addition.stable_addUtf8 name).count_le hn
  have hp₂ := (Addition.stable_addUtf8 descriptor).count_le hd
  have hlast : p₂.Extends q := (Addition.stable_add _).appends hpair
  have hname : q.utf8 n = .ok name :=
    (((Addition.stable_addUtf8 descriptor).appends hd).of_extends hlast).utf8 (utf8_of_addUtf8 hp hn)
  have hdescriptor : q.utf8 d = .ok descriptor := hlast.utf8 (utf8_of_addUtf8 (by omega) hd)
  have hget : q.get? i = some (.nameAndType n d) := get?_of_add (by simp) (by omega) hpair
  rw [nameAndType, hget]
  dsimp only
  rw [hname, hdescriptor]
  rfl

/-- A reference of any sort means the class and the member that it was made for. -/
theorem reference_of_add (refer : UInt16 → UInt16 → Constant) (hrefer : ∀ o m, refer o m ≠ .unusable)
    (hp : p.count ≤ 65536)
    (h : (addClass owner >>= fun o => addNameAndType name descriptor >>= fun m => add (refer o m)) p = (.ok i, q)) :
    ∃ o m, q.get? i = some (refer o m) ∧ q.className o = .ok owner ∧ q.nameAndType m = .ok (name, descriptor) := by
  obtain ⟨o, p₁, ho, h⟩ := Addition.bind_eq_ok.mp h
  obtain ⟨m, p₂, hm, hadd⟩ := Addition.bind_eq_ok.mp h
  have hp₁ := (Addition.stable_addClass owner).count_le ho
  have hp₂ := (Addition.stable_addNameAndType name descriptor).count_le hm
  have hlast : p₂.Extends q := (Addition.stable_add _).appends hadd
  have hmiddle : p₁.Extends p₂ := (Addition.stable_addNameAndType name descriptor).appends hm
  refine ⟨o, m, get?_of_add (hrefer o m) (by omega) hadd, ?_, ?_⟩
  · exact (hmiddle.of_extends hlast).className (className_of_addClass hp ho)
  · exact hlast.nameAndType (nameAndType_of_addNameAndType (by omega) hm)

/-- **An index that was given out for a field refers to that field.** -/
theorem reference_of_addFieldRef (hp : p.count ≤ 65536) (h : addFieldRef owner name descriptor p = (.ok i, q)) :
    (∃ o m, q.get? i = some (.fieldRef o m)) ∧ q.memberRef i = .ok ⟨owner, name, descriptor⟩ := by
  obtain ⟨o, m, hget, howner, hmember⟩ := reference_of_add .fieldRef (by simp) hp h
  refine ⟨⟨o, m, hget⟩, ?_⟩
  rw [memberRef, hget]
  dsimp only
  rw [howner, hmember]
  rfl

/-- **An index that was given out for a method refers to that method**, as one of an interface where it was asked for
so. -/
theorem reference_of_addMethodRef {ofInterface : Bool} (hp : p.count ≤ 65536)
    (h : addMethodRef owner name descriptor ofInterface p = (.ok i, q)) :
    (∃ o m, q.get? i = some (if ofInterface then .interfaceMethodRef o m else .methodRef o m)) ∧
      q.memberRef i = .ok ⟨owner, name, descriptor⟩ := by
  obtain ⟨o, m, hget, howner, hmember⟩ :=
    reference_of_add (fun o m => if ofInterface then .interfaceMethodRef o m else .methodRef o m)
      (fun o m => by cases ofInterface <;> simp) hp h
  refine ⟨⟨o, m, hget⟩, ?_⟩
  rw [memberRef, hget]
  cases ofInterface with
  | true =>
    simp only [if_true, howner, hmember]
    rfl
  | false =>
    simp only [Bool.false_eq_true, if_false, howner, hmember]
    rfl

end References

end ClassWeaver.ConstantPool

/-! ## Additions as edits -/

namespace ClassWeaver.ClassEdit

variable {c c' : ClassFile}

/-- An addition to the pool changes nothing else. -/
theorem onPool_eq_ok {α : Type} {addition : ConstantPool.Addition α} {x : α} :
    onPool addition c = (.ok x, c') ↔ ∃ pool, addition c.pool = (.ok x, pool) ∧ c' = { c with pool } := by
  show ((addition c.pool).1, { c with pool := (addition c.pool).2 }) = _ ↔ _
  cases addition c.pool with
  | mk result pool =>
    constructor
    · intro h
      cases h
      exact ⟨pool, rfl, rfl⟩
    · rintro ⟨q, hq, rfl⟩
      cases hq
      rfl

end ClassWeaver.ClassEdit
