import ClassWeaver.Json.Decimal

/-!
# Documents

The data model of configuration documents. The keys of an object are in the order of their bytes and occur once.

## Contents

* `Json` — the values.
* `insertField`, `ofFields` — objects with their keys in order.
* `get?`, `toFields?`, `toList?`, … — looking into a value.
-/

namespace ClassWeaver

/-- A value of a document. -/
inductive Json
  | null
  | bool (value : Bool)
  /-- An integer that fits in 64 bits, signed or unsigned. -/
  | integer (value : Int)
  /-- Any other number. -/
  | decimal (value : Decimal)
  | string (value : String)
  | array (values : List Json)
  | object (fields : List (String × Json))
  deriving Inhabited

namespace Json

/-! ## Equality -/

mutual

/-- Whether two values are the same. -/
def same : Json → Json → Bool
  | null, null => true
  | bool a, bool b => a == b
  | integer a, integer b => a == b
  | decimal a, decimal b => a == b
  | string a, string b => a == b
  | array a, array b => sameAll a b
  | object a, object b => sameFields a b
  | _, _ => false

/-- Whether two lists hold the same values. -/
def sameAll : List Json → List Json → Bool
  | [], [] => true
  | a :: as, b :: bs => same a b && sameAll as bs
  | _, _ => false

/-- Whether two lists hold the same fields. -/
def sameFields : List (String × Json) → List (String × Json) → Bool
  | [], [] => true
  | (k, a) :: as, (l, b) :: bs => k == l && (same a b && sameFields as bs)
  | _, _ => false

end

mutual

theorem same_iff : ∀ a b : Json, same a b = true ↔ a = b
  | null, b => by cases b <;> simp [same]
  | bool _, b => by cases b <;> simp [same]
  | integer _, b => by cases b <;> simp [same]
  | decimal _, b => by cases b <;> simp [same]
  | string _, b => by cases b <;> simp [same]
  | array a, b => by cases b <;> simp [same, sameAll_iff a]
  | object a, b => by cases b <;> simp [same, sameFields_iff a]

theorem sameAll_iff : ∀ a b : List Json, sameAll a b = true ↔ a = b
  | [], b => by cases b <;> simp [sameAll]
  | a :: as, b => by cases b <;> simp [sameAll, same_iff a, sameAll_iff as]

theorem sameFields_iff : ∀ a b : List (String × Json), sameFields a b = true ↔ a = b
  | [], b => by cases b <;> simp [sameFields]
  | (k, a) :: as, b => by
    rcases b with _ | ⟨⟨l, b⟩, bs⟩
    · simp [sameFields]
    · simp [sameFields, same_iff a, sameFields_iff as, and_assoc]

end

instance : DecidableEq Json := fun a b =>
  decidable_of_iff _ (same_iff a b)

/-! ## Objects -/

/-- Fields with one more value, in place of an earlier value of the same key. -/
def insertField {α : Type} (key : String) (value : α) : List (String × α) → List (String × α)
  | [] => [(key, value)]
  | (k, v) :: rest =>
    if key < k then (key, value) :: (k, v) :: rest
    else if key = k then (key, value) :: rest
    else (k, v) :: insertField key value rest

/-- The object with the given fields; the last value of a key counts. -/
def ofFields (fields : List (String × Json)) : Json :=
  object (fields.foldl (fun done (k, v) => insertField k v done) [])

/-- The value of a key. -/
def field? {α : Type} (key : String) (fields : List (String × α)) : Option α :=
  (fields.find? fun (k, _) => k == key).map Prod.snd

/-! ## Looking into a value -/

/-- The value of a key of an object. -/
def get? (key : String) : Json → Option Json
  | object fields => field? key fields
  | _ => none

/-- The fields of an object. -/
def toFields? : Json → Option (List (String × Json))
  | object fields => some fields
  | _ => none

/-- The values of an array. -/
def toList? : Json → Option (List Json)
  | array values => some values
  | _ => none

/-- The text of a string. -/
def toText? : Json → Option String
  | string value => some value
  | _ => none

/-- The value of a boolean. -/
def toBool? : Json → Option Bool
  | bool value => some value
  | _ => none

/-- The value of an integer. -/
def toInt? : Json → Option Int
  | integer value => some value
  | _ => none

/-- Whether a value is the null value. -/
def isNull : Json → Bool
  | null => true
  | _ => false

end Json

end ClassWeaver
