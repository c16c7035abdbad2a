import ClassWeaver.Json.Basic

/-!
# Fields of objects

A field that is inserted is found, and all others are found as before. So filling in what is missing keeps what is there,
and needs to be done once. The keys of an object are in order, an insertion keeps them so, and fields in order are the object
that they are put together to.

## Contents

* `field?_insertField_self`, `field?_insertField_of_ne` — looking for fields behind an insertion.
* `Keeps` — fields that gain others.
* `fillFields`, `field?_fillFields` — fields with defaults for those that are missing.
* `InOrder`, `ofFields_of_inOrder` — fields in the order of their keys.
-/

namespace ClassWeaver.Json

variable {α : Type} {key other : String} {value v : α} {fields later last : List (String × α)}

/-! ## Looking for fields -/

theorem field?_cons_self : field? key ((key, value) :: fields) = some value := by
  simp [field?]

theorem field?_cons_of_ne (h : other ≠ key) : field? key ((other, value) :: fields) = field? key fields := by
  simp [field?, h]

theorem field?_insertField_self : field? key (insertField key value fields) = some value := by
  induction fields with
  | nil => exact field?_cons_self
  | cons entry fields ih =>
    obtain ⟨k, v⟩ := entry
    unfold insertField
    by_cases hlt : key < k
    · rw [if_pos hlt]
      exact field?_cons_self
    rw [if_neg hlt]
    by_cases heq : key = k
    · rw [if_pos heq]
      exact field?_cons_self
    · rw [if_neg heq, field?_cons_of_ne (Ne.symm heq)]
      exact ih

theorem field?_insertField_of_ne (h : other ≠ key) : field? other (insertField key value fields) = field? other fields := by
  induction fields with
  | nil => exact field?_cons_of_ne h.symm
  | cons entry fields ih =>
    obtain ⟨k, v⟩ := entry
    unfold insertField
    by_cases hlt : key < k
    · rw [if_pos hlt]
      exact field?_cons_of_ne h.symm
    rw [if_neg hlt]
    by_cases heq : key = k
    · rw [if_pos heq, ← heq, field?_cons_of_ne h.symm, field?_cons_of_ne h.symm]
    · rw [if_neg heq]
      by_cases hk : k = other
      · rw [hk, field?_cons_self, field?_cons_self]
      · rw [field?_cons_of_ne hk, field?_cons_of_ne hk]
        exact ih

/-! ## Fields that gain others -/

/-- Every field is still there, with its value. -/
def Keeps (fields later : List (String × α)) : Prop :=
  ∀ key value, field? key fields = some value → field? key later = some value

theorem Keeps.of_keeps (h : Keeps fields later) (h' : Keeps later last) : Keeps fields last :=
  fun key value hfield => h' key value (h key value hfield)

/-! ## Missing fields -/

/-- Fields with one more, unless its key is there. -/
def fillField (fields : List (String × α)) (entry : String × α) : List (String × α) :=
  if (field? entry.1 fields).isSome then fields else insertField entry.1 entry.2 fields

/-- Fields with defaults for the keys that are missing. -/
def fillFields (fields defaults : List (String × α)) : List (String × α) :=
  defaults.foldl fillField fields

theorem field?_cons {entry : String × α} : field? key (entry :: fields) = (field? key [entry]).or (field? key fields) := by
  obtain ⟨k, v⟩ := entry
  by_cases hk : k = key
  · rw [hk, field?_cons_self, field?_cons_self]
    rfl
  · rw [field?_cons_of_ne hk, field?_cons_of_ne hk]
    rfl

theorem field?_fillField {entry : String × α} :
    field? key (fillField fields entry) = (field? key fields).or (field? key [entry]) := by
  obtain ⟨k, v⟩ := entry
  unfold fillField
  by_cases hk : k = key
  · subst hk
    dsimp only
    cases hfield : field? k fields with
    | some found =>
      rw [if_pos Option.isSome_some, hfield]
      rfl
    | none =>
      rw [if_neg (by simp), field?_insertField_self, field?_cons_self]
      rfl
  · have hnone : field? key [(k, v)] = none := field?_cons_of_ne hk
    rw [hnone, Option.or_none]
    split
    · rfl
    · exact field?_insertField_of_ne (Ne.symm hk)

/-- **Filled fields are the ones that were there, and the defaults of all others.** -/
theorem field?_fillFields {defaults : List (String × α)} :
    field? key (fillFields fields defaults) = (field? key fields).or (field? key defaults) := by
  induction defaults generalizing fields with
  | nil => exact Option.or_none.symm
  | cons entry defaults ih =>
    show field? key (fillFields (fillField fields entry) defaults) = _
    rw [ih, field?_fillField, Option.or_assoc, ← field?_cons]

theorem keeps_fillFields (fields defaults : List (String × α)) : Keeps fields (fillFields fields defaults) := by
  intro key value h
  rw [field?_fillFields, h]
  rfl

theorem keeps_fillField (fields : List (String × α)) (entry : String × α) : Keeps fields (fillField fields entry) :=
  keeps_fillFields fields [entry]

theorem isSome_field?_of_mem {entry : String × α} (h : entry ∈ fields) : (field? entry.1 fields).isSome = true := by
  unfold field?
  rw [Option.isSome_map, List.find?_isSome]
  exact ⟨entry, h, beq_self_eq_true _⟩

theorem isSome_fillFields {entry : String × α} {defaults : List (String × α)} (h : entry ∈ defaults) :
    (field? entry.1 (fillFields fields defaults)).isSome = true := by
  rw [field?_fillFields, Option.isSome_or, isSome_field?_of_mem h, Bool.or_true]

theorem isSome_fillField (fields : List (String × α)) (entry : String × α) :
    (field? entry.1 (fillField fields entry)).isSome = true :=
  isSome_fillFields (List.mem_singleton_self entry)

/-- Fields that lack nothing stay as they are. -/
theorem fillFields_of_isSome {defaults : List (String × α)}
    (h : ∀ entry ∈ defaults, (field? entry.1 fields).isSome = true) : fillFields fields defaults = fields := by
  induction defaults with
  | nil => rfl
  | cons entry defaults ih =>
    obtain ⟨hthere, hall⟩ := List.forall_mem_cons.mp h
    have hentry : fillField fields entry = fields := if_pos hthere
    show fillFields (fillField fields entry) defaults = fields
    rw [hentry, ih hall]

/-- **Fields that were filled lack nothing.** -/
theorem fillFields_again {defaults : List (String × α)} :
    fillFields (fillFields fields defaults) defaults = fillFields fields defaults :=
  fillFields_of_isSome fun _ => isSome_fillFields

/-! ## Other values -/

section Values

variable {β : Type} (f : α → β)

theorem field?_map : field? key (fields.map fun entry => (entry.1, f entry.2)) = (field? key fields).map f := by
  unfold field?
  rw [List.find?_map, Option.map_map, Option.map_map]
  rfl

theorem insertField_map : insertField key (f value) (fields.map fun entry => (entry.1, f entry.2)) =
    (insertField key value fields).map fun entry => (entry.1, f entry.2) := by
  induction fields with
  | nil => rfl
  | cons entry fields ih =>
    obtain ⟨k, v⟩ := entry
    rw [List.map_cons]
    unfold insertField
    by_cases hlt : key < k
    · rw [if_pos hlt, if_pos hlt]
      rfl
    rw [if_neg hlt, if_neg hlt]
    by_cases heq : key = k
    · rw [if_pos heq, if_pos heq]
      rfl
    · rw [if_neg heq, if_neg heq, ih]
      rfl

/-- It does not matter whether values are replaced before fields are filled or behind. -/
theorem fillFields_map {defaults : List (String × α)} :
    fillFields (fields.map fun entry => (entry.1, f entry.2)) (defaults.map fun entry => (entry.1, f entry.2)) =
      (fillFields fields defaults).map fun entry => (entry.1, f entry.2) := by
  induction defaults generalizing fields with
  | nil => rfl
  | cons entry defaults ih =>
    have hentry : fillField (fields.map fun entry => (entry.1, f entry.2)) (entry.1, f entry.2) =
        (fillField fields entry).map fun entry => (entry.1, f entry.2) := by
      unfold fillField
      dsimp only
      rw [field?_map, Option.isSome_map, insertField_map]
      split
      · rfl
      · rfl
    show fillFields (fillField _ _) _ = (fillFields (fillField fields entry) defaults).map _
    rw [hentry, ih]

end Values

/-! ## Fields in order -/

/-- The keys are in order, once each. -/
def InOrder (fields : List (String × α)) : Prop :=
  fields.Pairwise fun a b => a.1 < b.1

/-- A field behind all others is put there. -/
theorem insertField_eq_append (h : ∀ entry ∈ fields, entry.1 < key) : insertField key value fields = fields ++ [(key, value)] := by
  induction fields with
  | nil => rfl
  | cons entry fields ih =>
    obtain ⟨hentry, hfields⟩ := List.forall_mem_cons.mp h
    obtain ⟨k, v⟩ := entry
    have hne : key ≠ k := by
      rintro rfl
      exact String.lt_irrefl _ hentry
    unfold insertField
    rw [if_neg (String.lt_asymm hentry), if_neg hne, ih hfields]
    rfl

theorem mem_insertField {entry : String × α} (h : entry ∈ insertField key value fields) :
    entry = (key, value) ∨ entry ∈ fields := by
  induction fields with
  | nil => exact .inl (List.mem_singleton.mp h)
  | cons front fields ih =>
    obtain ⟨k, v⟩ := front
    unfold insertField at h
    by_cases hlt : key < k
    · rw [if_pos hlt] at h
      exact List.mem_cons.mp h
    rw [if_neg hlt] at h
    by_cases heq : key = k
    · rw [if_pos heq] at h
      exact (List.mem_cons.mp h).imp_right (List.mem_cons_of_mem _)
    · rw [if_neg heq] at h
      rcases List.mem_cons.mp h with h | h
      · exact .inr (h ▸ List.mem_cons_self)
      · exact (ih h).imp_right (List.mem_cons_of_mem _)

/-- **An insertion keeps the order of keys.** -/
theorem InOrder.insertField (h : InOrder fields) : InOrder (insertField key value fields) := by
  induction fields with
  | nil => exact List.pairwise_singleton _ _
  | cons entry fields ih =>
    obtain ⟨k, v⟩ := entry
    obtain ⟨hfront, hfields⟩ := List.pairwise_cons.mp h
    unfold Json.insertField
    by_cases hlt : key < k
    · rw [if_pos hlt]
      refine List.pairwise_cons.mpr ⟨?_, h⟩
      intro later hlater
      rcases List.mem_cons.mp hlater with rfl | hlater
      · exact hlt
      · exact String.lt_trans hlt (hfront later hlater)
    rw [if_neg hlt]
    by_cases heq : key = k
    · rw [if_pos heq, heq]
      exact List.pairwise_cons.mpr ⟨hfront, hfields⟩
    · rw [if_neg heq]
      refine List.pairwise_cons.mpr ⟨?_, ih hfields⟩
      intro later hlater
      rcases mem_insertField hlater with rfl | hlater
      · exact Decidable.byContradiction fun hgt => heq (String.le_antisymm hgt hlt)
      · exact hfront later hlater

theorem mem_fillFields {entry : String × α} {defaults : List (String × α)} (h : entry ∈ fillFields fields defaults) :
    entry ∈ fields ∨ entry ∈ defaults := by
  induction defaults generalizing fields with
  | nil => exact .inl h
  | cons front defaults ih =>
    rcases ih h with h | h
    · unfold fillField at h
      split at h
      · exact .inl h
      · rcases mem_insertField h with rfl | h
        · exact .inr List.mem_cons_self
        · exact .inl h
    · exact .inr (List.mem_cons_of_mem _ h)

/-- Filling keeps the order of keys. -/
theorem InOrder.fillFields (h : InOrder fields) (defaults : List (String × α)) : InOrder (fillFields fields defaults) := by
  induction defaults generalizing fields with
  | nil => exact h
  | cons entry defaults ih =>
    have hentry : InOrder (fillField fields entry) := by
      unfold fillField
      split
      · exact h
      · exact h.insertField
    exact ih hentry

theorem inOrder_foldl_insertField (entries : List (String × α)) (h : InOrder fields) :
    InOrder (entries.foldl (fun done entry => insertField entry.1 entry.2 done) fields) := by
  induction entries generalizing fields with
  | nil => exact h
  | cons entry entries ih => exact ih h.insertField

/-- Fields in order are put behind those in front of them, one by one. -/
theorem foldl_insertField_eq_append {entries : List (String × α)} (h : InOrder (fields ++ entries)) :
    entries.foldl (fun done entry => insertField entry.1 entry.2 done) fields = fields ++ entries := by
  induction entries generalizing fields with
  | nil => rw [List.foldl_nil, List.append_nil]
  | cons entry entries ih =>
    have hfront : ∀ front ∈ fields, front.1 < entry.1 :=
      fun front hmem => (List.pairwise_append.mp h).2.2 front hmem entry List.mem_cons_self
    rw [List.append_cons] at h
    rw [List.foldl_cons, insertField_eq_append hfront, ih h, ← List.append_cons]

/-- **Fields in order are the object of these fields.** -/
theorem ofFields_of_inOrder {fields : List (String × Json)} (h : InOrder fields) : ofFields fields = .object fields := by
  have hfields : InOrder ([] ++ fields) := h
  exact congrArg Json.object (foldl_insertField_eq_append hfields)

/-- The fields of an object that was put together are in order. -/
theorem inOrder_of_ofFields {entries fields : List (String × Json)} (h : ofFields entries = .object fields) :
    InOrder fields := by
  cases h
  exact inOrder_foldl_insertField entries List.Pairwise.nil

end ClassWeaver.Json
