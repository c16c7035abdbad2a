import ClassWeaver.Json.Syntax
import ClassWeaver.Proofs.Json.Fields

/-!
# Lawful syntax

What is relied upon when documents are read and printed. Whatever is read is well formed: the keys of each object are in
order, integers fit in 64 bits, and arrays and objects nest no deeper than is allowed. And a well-formed document is read from
its printed form as what it was, unless it has numbers that are no integers: of those nothing is said, since a number that is
printed with few digits may be read as its neighbour.

## Contents

* `Formed`, `decimals` — well-formed documents, and the numbers in them that are no integers.
* `ReadsBack` — documents that survive being printed.
* `LawfulDocumentSyntax` — a syntax to rely upon.
-/

namespace ClassWeaver

namespace Json

/-! ## Well-formed documents -/

/-- The integers that documents have as such. -/
def FitsWord (n : Int) : Prop :=
  -0x8000000000000000 ≤ n ∧ n < 0x10000000000000000

mutual

/-- A value that nests at most `depth` deep, with its keys in order and its integers in range. -/
def Formed : (depth : Nat) → Json → Prop
  | _, null => True
  | _, bool _ => True
  | _, integer n => FitsWord n
  | _, decimal _ => True
  | _, string _ => True
  | depth, array values => 0 < depth ∧ FormedAll (depth - 1) values
  | depth, object fields => 0 < depth ∧ InOrder fields ∧ FormedFields (depth - 1) fields

/-- Values that nest at most `depth` deep each. -/
def FormedAll : (depth : Nat) → List Json → Prop
  | _, [] => True
  | depth, v :: rest => Formed depth v ∧ FormedAll depth rest

/-- Fields whose values nest at most `depth` deep each. -/
def FormedFields : (depth : Nat) → List (String × Json) → Prop
  | _, [] => True
  | depth, (_, v) :: rest => Formed depth v ∧ FormedFields depth rest

end

mutual

/-- The numbers of a value that are no integers. -/
def decimals : Json → List Decimal
  | decimal d => [d]
  | array values => decimalsAll values
  | object fields => decimalsFields fields
  | _ => []

/-- Those of some values. -/
def decimalsAll : List Json → List Decimal
  | [] => []
  | v :: rest => decimals v ++ decimalsAll rest

/-- Those of some fields. -/
def decimalsFields : List (String × Json) → List Decimal
  | [] => []
  | (_, v) :: rest => decimals v ++ decimalsFields rest

end

variable {depth : Nat} {v : Json} {values : List Json} {fields : List (String × Json)}

theorem formedAll_iff : FormedAll depth values ↔ ∀ v ∈ values, Formed depth v := by
  induction values with
  | nil => exact iff_of_true trivial nofun
  | cons v values ih =>
    unfold FormedAll
    rw [List.forall_mem_cons, ih]

theorem formedFields_iff : FormedFields depth fields ↔ ∀ entry ∈ fields, Formed depth entry.2 := by
  induction fields with
  | nil => exact iff_of_true trivial nofun
  | cons entry fields ih =>
    unfold FormedFields
    rw [List.forall_mem_cons, ih]

theorem decimalsFields_eq_nil_iff : decimalsFields fields = [] ↔ ∀ entry ∈ fields, decimals entry.2 = [] := by
  induction fields with
  | nil => exact iff_of_true rfl nofun
  | cons entry fields ih =>
    unfold decimalsFields
    rw [List.append_eq_nil_iff, List.forall_mem_cons, ih]

/-- A well-formed value can be put into well-formed fields. -/
theorem formedFields_insertField {key : String} (hv : Formed depth v) (h : FormedFields depth fields) :
    FormedFields depth (insertField key v fields) := by
  rw [formedFields_iff] at h ⊢
  intro entry hentry
  rcases mem_insertField hentry with rfl | hentry
  · exact hv
  · exact h entry hentry

/-! ## Reading back -/

/-- A document that is read from its printed form. -/
def ReadsBack [DocumentSyntax] (document : Json) : Prop :=
  DocumentSyntax.parse? (documentText document) = some document

end Json

/-- A syntax whose readers and printers can be relied upon. -/
class LawfulDocumentSyntax [DocumentSyntax] : Prop where
  /-- What is read is well formed. -/
  formed : ∀ {text document}, DocumentSyntax.parse? text = some document → Json.Formed Json.maxDepth document
  /-- What is well formed and has no numbers but integers is read back. -/
  readsBack : ∀ {document}, Json.Formed Json.maxDepth document → Json.decimals document = [] → document.ReadsBack

end ClassWeaver
