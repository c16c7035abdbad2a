import ClassWeaver.ClassFile.Edit
import ClassWeaver.Proofs.ClassFile.PoolGrowth

/-!
# Looking up by name

Members and attributes are found by texts that stand behind indices of the constant pool. As long as the indices are
those of the pool, more constants change nothing of what is found; an index beyond the pool could come to mean a text
that is added later. An edit changes the item at the position that was found, and that item splits the list in two.

## Contents

* `split_of_findIdx?`, `findIdx?_append_cons` — the list around the first item that fits.
* `findIdx?_congr`, `findIdx?_modify`, `modify_congr` — the same items are found, and the same changes made.
* `attributeNamed?` — the first attribute of a name.
* `attributePosition?_of_extends`, `attributeNamed?_of_extends` — the same items are found in a larger pool.
-/

namespace ClassWeaver

/-! ## Around the first item -/

/-- The first item that fits splits the list, and a change at its position changes it alone. -/
theorem split_of_findIdx? {α : Type} {fits : α → Bool} {l : List α} {i : Nat} (h : l.findIdx? fits = some i) :
    ∃ front a back, l = front ++ a :: back ∧ l[i]? = some a ∧ fits a = true ∧ (∀ x ∈ front, fits x = false) ∧
      ∀ change, l.modify i change = front ++ change a :: back := by
  obtain ⟨hlt, hfits, hearlier⟩ := List.findIdx?_eq_some_iff_getElem.mp h
  refine ⟨l.take i, l[i], l.drop (i + 1), ?_, List.getElem?_eq_getElem hlt, hfits, ?_, fun change => ?_⟩
  · rw [← List.drop_eq_getElem_cons hlt, List.take_append_drop]
  · intro x hx
    obtain ⟨j, hj, rfl⟩ := List.mem_take_iff_getElem.mp hx
    exact Bool.eq_false_iff.mpr (hearlier j (by omega))
  · exact List.modify_eq_take_cons_drop hlt

theorem findIdx?_append_cons {α : Type} {fits : α → Bool} {front back : List α} {a : α} (hfront : ∀ b ∈ front, fits b = false)
    (ha : fits a = true) : (front ++ a :: back).findIdx? fits = some front.length := by
  rw [List.findIdx?_append, List.findIdx?_eq_none_iff.mpr hfront, List.findIdx?_cons, ha]
  simp

theorem findIdx?_congr {α : Type} {fits fits' : α → Bool} {l : List α} (h : ∀ x ∈ l, fits x = fits' x) :
    l.findIdx? fits = l.findIdx? fits' := by
  induction l with
  | nil => rfl
  | cons a l ih =>
    obtain ⟨ha, hl⟩ := List.forall_mem_cons.mp h
    rw [List.findIdx?_cons, List.findIdx?_cons, ha, ih hl]

/-- A change that does not matter to what is looked for does not change where it is found. -/
theorem findIdx?_modify {α : Type} {fits : α → Bool} {change : α → α} (h : ∀ x, fits (change x) = fits x) {l : List α}
    {i : Nat} : (l.modify i change).findIdx? fits = l.findIdx? fits := by
  induction l generalizing i with
  | nil => rw [List.modify_nil]
  | cons a l ih =>
    cases i with
    | zero => rw [List.modify_zero_cons, List.findIdx?_cons, List.findIdx?_cons, h]
    | succ i => rw [List.modify_succ_cons, List.findIdx?_cons, List.findIdx?_cons, ih]

/-- A change at a position matters by what it makes of the item there. -/
theorem modify_congr {α : Type} {change change' : α → α} {l : List α} {i : Nat} {a : α} (hi : l[i]? = some a)
    (h : change a = change' a) : l.modify i change = l.modify i change' := by
  refine List.ext_getElem? fun j => ?_
  rw [List.getElem?_modify, List.getElem?_modify]
  by_cases hj : i = j
  · subst hj
    rw [hi]
    simp [h]
  · simp only [if_neg hj]

/-- What holds of the items and of the changed one holds of the items afterwards. -/
theorem forall_mem_modify {α : Type} {P : α → Prop} {change : α → α} {l : List α} {i : Nat} (h : ∀ a ∈ l, P a)
    (hi : ∀ a, l[i]? = some a → P (change a)) : ∀ a ∈ l.modify i change, P a := by
  intro a ha
  obtain ⟨j, hj⟩ := List.mem_iff_getElem?.mp ha
  rw [List.getElem?_modify, Option.map_eq_map, Option.map_eq_some_iff] at hj
  obtain ⟨b, hb, rfl⟩ := hj
  by_cases heq : i = j
  · subst heq
    rw [if_pos rfl]
    exact hi b hb
  · rw [if_neg heq]
    exact h b (List.mem_of_getElem? hb)

/-! ## In a larger pool -/

section

variable {p q : ConstantPool} {attributes : List Attribute}

theorem attributePosition?_of_extends (hpool : p.Extends q)
    (hnames : ∀ a ∈ attributes, a.nameIndex.toNat < p.count) (name : String) :
    attributePosition? attributes q name = attributePosition? attributes p name :=
  findIdx?_congr fun a ha => hpool.hasText_eq (hnames a ha) name

/-- The first attribute of a list with the given name. -/
def attributeNamed? (attributes : List Attribute) (pool : ConstantPool) (name : String) : Option Attribute :=
  attributes.find? fun a => pool.hasText a.nameIndex name

theorem bind_attributePosition? (attributes : List Attribute) (pool : ConstantPool) (name : String) :
    (attributePosition? attributes pool name).bind (attributes[·]?) = attributeNamed? attributes pool name :=
  List.find?_eq_bind_findIdx?_getElem?.symm

theorem attributeNamed?_of_extends (hpool : p.Extends q)
    (hnames : ∀ a ∈ attributes, a.nameIndex.toNat < p.count) (name : String) :
    attributeNamed? attributes q name = attributeNamed? attributes p name := by
  rw [← bind_attributePosition?, ← bind_attributePosition?, attributePosition?_of_extends hpool hnames]

/-- A text is no other one. -/
theorem hasText_eq_false {i : UInt16} {text other : String} (h : p.utf8 i = .ok text) (hne : text ≠ other) :
    p.hasText i other = false := by
  rw [Bool.eq_false_iff, ne_eq, ConstantPool.hasText_eq_true_iff, h, Except.ok.injEq]
  exact hne

end

end ClassWeaver
