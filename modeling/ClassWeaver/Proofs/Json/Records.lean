import ClassWeaver.Json.Reading
import ClassWeaver.Proofs.Edits
import ClassWeaver.Proofs.Json.Fields
import Mathlib.Data.List.Nodup

/-!
# Reading records off objects

An object is read as a record in two rounds: first the values of all keys that the record knows are checked, then the fields
that must be there are looked for. For an object with each key once, that is to say that every field of the record that is
there passes its check, and that none is missing that must be there. A reader that gives up on the way reports the type or
the absence of a value, so rules of the record itself are left to whoever reads on.

## Contents

* `field?_of_mem` — looking for the field of a key that is there once.
* `Fits`, `readObject_eq_ok_iff` — objects that are read as a record.
* `fieldOr_known`, `fieldOr_eq_ok_iff` — a field of what was read.
* `text_eq_ok_iff`, `texts_eq_ok_iff`, … — what single values are read as.
* `Structural` and its lemmas — readers that never report a broken rule.
-/

namespace ClassWeaver.Json

variable {α β : Type} {fields known : List (String × Json)} {format : RecordFormat} {name : String} {v : Json}

/-! ## Keys that are there once -/

theorem field?_of_mem {fields : List (String × α)} (h : InOrder fields) {entry : String × α} (hmem : entry ∈ fields) :
    field? entry.1 fields = some entry.2 := by
  induction fields with
  | nil => cases hmem
  | cons first fields ih =>
    obtain ⟨hfirst, hfields⟩ := List.pairwise_cons.mp h
    rcases List.mem_cons.mp hmem with rfl | hmem
    · exact field?_cons_self
    · have hne : first.1 ≠ entry.1 := by
        intro heq
        exact String.lt_irrefl _ (heq ▸ hfirst entry hmem)
      exact (field?_cons_of_ne hne).trans (ih hfields hmem)

theorem mem_of_field? {fields : List (String × α)} {key : String} {value : α} (h : field? key fields = some value) :
    (key, value) ∈ fields := by
  obtain ⟨entry, hfind, rfl⟩ := Option.map_eq_some_iff.mp h
  have hkey : entry.1 = key := by simpa using List.find?_some hfind
  exact hkey ▸ List.mem_of_find?_eq_some hfind

/-- Fields of other keys that are left out make no difference. -/
theorem field?_filter {fields : List (String × α)} {keep : String × α → Bool} {key : String}
    (h : ∀ value, keep (key, value) = true) : field? key (fields.filter keep) = field? key fields := by
  unfold field?
  rw [List.find?_filter]
  refine congrArg _ (congrArg (List.find? · fields) (funext fun entry => ?_))
  by_cases hkey : entry.1 = key
  · have hkeep := h entry.2
    rw [← hkey] at hkeep
    simp [hkeep, ← beq_iff_eq]
  · simp [hkey]

/-! ## Objects -/

/-- Whether the record has a field of the entry's key. -/
def isKnown (format : RecordFormat) (entry : String × Json) : Bool :=
  (format.fields.find? (·.name == entry.1)).isSome

/-- The fields of the record that are there pass their checks, and those that must be there are there. -/
structure Fits (format : RecordFormat) (fields : List (String × Json)) : Prop where
  checked : ∀ f ∈ format.fields, ∀ v, field? f.name fields = some v → f.check v = .ok ()
  present : ∀ f ∈ format.fields, f.optionalInObject = false → (field? f.name fields).isSome = true

theorem isKnown_of_mem (h : name ∈ format.fields.map FieldFormat.name) (v : Json) : isKnown format (name, v) = true := by
  obtain ⟨f, hf, rfl⟩ := List.mem_map.mp h
  unfold isKnown
  rw [List.find?_isSome]
  exact ⟨f, hf, beq_self_eq_true _⟩

theorem field?_known (h : name ∈ format.fields.map FieldFormat.name) :
    field? name (fields.filter (isKnown format)) = field? name fields :=
  field?_filter (isKnown_of_mem h)

/-- What the first round does with one field. -/
def checkKnown (format : RecordFormat) (entry : String × Json) : Except Mismatch (Option (String × Json)) :=
  match format.fields.find? (·.name == entry.1) with
  | none => return none
  | some f => do
    f.check entry.2
    return some entry

theorem readObject_eq (format : RecordFormat) (fields : List (String × Json)) : readObject format fields =
    (fields.filterMapM (checkKnown format) >>= fun known =>
      match format.fields.find? fun f => !f.optionalInObject && (field? f.name known).isNone with
      | some f => .error (.missingField f.name)
      | none => return known) :=
  rfl

/-- The first round keeps the known fields, if they pass their checks. -/
theorem filterMapM_checkKnown_eq_ok : fields.filterMapM (checkKnown format) = .ok known ↔
    (∀ entry ∈ fields, ∀ f, format.fields.find? (·.name == entry.1) = some f → f.check entry.2 = .ok ()) ∧
      known = fields.filter (isKnown format) := by
  induction fields generalizing known with
  | nil =>
    rw [List.filterMapM_nil]
    exact ⟨fun h => ⟨nofun, (Except.ok.inj h).symm⟩, fun h => congrArg Except.ok h.2.symm⟩
  | cons entry fields ih =>
    rw [List.filterMapM_cons, except_bind_eq_ok, List.forall_mem_cons]
    cases hfind : format.fields.find? (·.name == entry.1) with
    | none =>
      have hskipped : checkKnown format entry = .ok none := by
        unfold checkKnown
        rw [hfind]
        rfl
      rw [List.filter_cons_of_neg (by simp [isKnown, hfind])]
      constructor
      · rintro ⟨kept, hkept, hrest⟩
        cases hskipped.symm.trans hkept
        obtain ⟨hchecked, hknown⟩ := ih.mp hrest
        exact ⟨⟨nofun, hchecked⟩, hknown⟩
      · rintro ⟨⟨-, hchecked⟩, hknown⟩
        exact ⟨none, hskipped, ih.mpr ⟨hchecked, hknown⟩⟩
    | some f =>
      have hstep : checkKnown format entry = (f.check entry.2 >>= fun _ => return some entry) := by
        unfold checkKnown
        rw [hfind]
      rw [List.filter_cons_of_pos (by simp [isKnown, hfind]), hstep]
      constructor
      · rintro ⟨kept, hkept, hrest⟩
        obtain ⟨⟨⟩, hcheck, hkept⟩ := except_bind_eq_ok.mp hkept
        cases hkept
        obtain ⟨rest, hread, hcons⟩ := except_bind_eq_ok.mp hrest
        cases hcons
        obtain ⟨hchecked, rfl⟩ := ih.mp hread
        refine ⟨⟨fun g hg => ?_, hchecked⟩, rfl⟩
        exact Option.some.inj hg ▸ hcheck
      · rintro ⟨⟨hcheck, hchecked⟩, rfl⟩
        refine ⟨some entry, except_bind_eq_ok.mpr ⟨(), hcheck f rfl, rfl⟩, ?_⟩
        exact except_bind_eq_ok.mpr ⟨_, ih.mpr ⟨hchecked, rfl⟩, rfl⟩

/-- In a record whose fields have different names, a field is found by its name. -/
theorem find?_name {f : FieldFormat} (hnames : (format.fields.map FieldFormat.name).Nodup) (h : f ∈ format.fields) :
    format.fields.find? (·.name == f.name) = some f := by
  cases hfind : format.fields.find? (·.name == f.name) with
  | none => exact absurd (List.find?_eq_none.mp hfind f h) (by simp)
  | some g =>
    have hname : g.name = f.name := by simpa using List.find?_some hfind
    rw [List.inj_on_of_nodup_map hnames (List.mem_of_find?_eq_some hfind) h hname]

/-- **An object is read as a record** if it fits, and then the known fields are read. -/
theorem readObject_eq_ok_iff (h : InOrder fields) (hnames : (format.fields.map FieldFormat.name).Nodup) :
    readObject format fields = .ok known ↔ Fits format fields ∧ known = fields.filter (isKnown format) := by
  -- the reader goes through the keys of the object, while fitting goes through the fields of the record
  have hchecked : (∀ entry ∈ fields, ∀ f, format.fields.find? (·.name == entry.1) = some f → f.check entry.2 = .ok ()) ↔
      ∀ f ∈ format.fields, ∀ v, field? f.name fields = some v → f.check v = .ok () := by
    constructor
    · intro hall f hf v hv
      exact hall _ (mem_of_field? hv) f (find?_name hnames hf)
    · intro hall entry hentry f hf
      have hname : f.name = entry.1 := by simpa using List.find?_some hf
      exact hall f (List.mem_of_find?_eq_some hf) _ (hname ▸ field?_of_mem h hentry)
  have hpresent : (format.fields.find? fun f =>
      !f.optionalInObject && (field? f.name (fields.filter (isKnown format))).isNone) = none ↔
      ∀ f ∈ format.fields, f.optionalInObject = false → (field? f.name fields).isSome = true := by
    rw [List.find?_eq_none]
    refine forall₂_congr fun f hf => ?_
    rw [field?_known (List.mem_map_of_mem hf)]
    cases f.optionalInObject <;> cases field? f.name fields <;> simp
  rw [readObject_eq, except_bind_eq_ok]
  constructor
  · rintro ⟨kept, hkept, hread⟩
    obtain ⟨hall, rfl⟩ := filterMapM_checkKnown_eq_ok.mp hkept
    cases hmissing : format.fields.find? fun f =>
        !f.optionalInObject && (field? f.name (fields.filter (isKnown format))).isNone with
    | some f =>
      rw [hmissing] at hread
      cases hread
    | none =>
      rw [hmissing] at hread
      cases hread
      exact ⟨⟨hchecked.mp hall, hpresent.mp hmissing⟩, rfl⟩
  · rintro ⟨⟨hall, hthere⟩, rfl⟩
    refine ⟨_, filterMapM_checkKnown_eq_ok.mpr ⟨hchecked.mpr hall, rfl⟩, ?_⟩
    rw [hpresent.mpr hthere]
    rfl

/-- Among the known fields, a field of the record is what it was. -/
theorem fieldOr_known (h : name ∈ format.fields.map FieldFormat.name) (read : Json → Except Mismatch α) (otherwise : α) :
    fieldOr (fields.filter (isKnown format)) name read otherwise = fieldOr fields name read otherwise := by
  unfold fieldOr
  rw [field?_known h]

theorem fieldOr_eq_ok_iff {read : Json → Except Mismatch α} {otherwise a : α} :
    fieldOr fields name read otherwise = .ok a ↔
      (∃ v, field? name fields = some v ∧ read v = .ok a) ∨ field? name fields = none ∧ a = otherwise := by
  unfold fieldOr
  cases field? name fields with
  | none => simp [eq_comm]
  | some v => simp

/-- A field that can be read passes a check that reads it. -/
theorem map_eq_ok_of_fieldOr {read : Json → Except Mismatch α} {otherwise a : α}
    (h : fieldOr fields name read otherwise = .ok a) (hv : field? name fields = some v) :
    ((read v).map fun _ => ()) = .ok () := by
  rcases fieldOr_eq_ok_iff.mp h with ⟨v', hv', hread⟩ | ⟨hnone, -⟩
  · cases hv.symm.trans hv'
    rw [hread]
    rfl
  · cases hv.symm.trans hnone

/-! ## Single values -/

theorem text_eq_ok_iff {s : String} : text v = .ok s ↔ v = .string s := by
  cases v <;> simp [text, mismatch]

theorem boolean_eq_ok_iff {b : Bool} : boolean v = .ok b ↔ v = .bool b := by
  cases v <;> simp [boolean, mismatch]

theorem optional_text_eq_ok_iff {given : Option String} :
    optional text v = .ok given ↔ (v = .null ∧ given = none) ∨ ∃ s, v = .string s ∧ given = some s := by
  cases v <;> simp [optional, text, mismatch, eq_comm]

theorem mapM_text_eq_ok_iff {values : List Json} {given : List String} :
    values.mapM text = .ok given ↔ values = given.map .string := by
  simp only [except_mapM_eq_ok_iff, text_eq_ok_iff]
  rw [← List.forall₂_map_right_iff, List.forall₂_eq_eq_eq]

theorem texts_eq_ok_iff {given : List String} : texts v = .ok given ↔ v = .array (given.map .string) := by
  cases v with
  | array values =>
    rw [array.injEq]
    exact mapM_text_eq_ok_iff
  | _ => simp [texts, mismatch]

/-! ## Readers that report types and absences -/

/-- The reader of a value never reports that a rule of a record is broken. -/
def Structural (result : Except Mismatch α) : Prop :=
  ∀ message, result ≠ .error (.custom message)

theorem structural_ok (a : α) : Structural (.ok a) :=
  nofun

theorem Structural.bind {result : Except Mismatch α} {next : α → Except Mismatch β} (h : Structural result)
    (hnext : ∀ a, Structural (next a)) : Structural (result >>= next) := by
  intro message herror
  rcases except_bind_eq_error.mp herror with herror | ⟨a, -, herror⟩
  · exact h message herror
  · exact hnext a message herror

theorem Structural.map {result : Except Mismatch α} (h : Structural result) (f : α → β) : Structural (result.map f) := by
  cases result with
  | ok a => exact nofun
  | error e =>
    intro message herror
    cases herror
    exact h message rfl

theorem structural_text (v : Json) : Structural (text v) := by
  cases v <;> exact nofun

theorem structural_boolean (v : Json) : Structural (boolean v) := by
  cases v <;> exact nofun

theorem structural_optional {read : Json → Except Mismatch α} (h : ∀ v, Structural (read v)) (v : Json) :
    Structural (optional read v) := by
  match v with
  | .null => exact nofun
  | .bool _ | .integer _ | .decimal _ | .string _ | .array _ | .object _ => exact (h _).map some

theorem structural_mapM {read : Json → Except Mismatch α} (h : ∀ v, Structural (read v)) (values : List Json) :
    Structural (values.mapM read) := by
  induction values with
  | nil => exact structural_ok []
  | cons v values ih =>
    rw [List.mapM_cons]
    exact (h v).bind fun a => ih.bind fun rest => structural_ok (a :: rest)

theorem structural_texts (v : Json) : Structural (texts v) := by
  match v with
  | .array values => exact structural_mapM structural_text values
  | .null | .bool _ | .integer _ | .decimal _ | .string _ | .object _ => exact nofun

theorem structural_fieldOr {read : Json → Except Mismatch α} (h : ∀ v, Structural (read v))
    (fields : List (String × Json)) (name : String) (otherwise : α) : Structural (fieldOr fields name read otherwise) := by
  unfold fieldOr
  split
  · exact h _
  · exact structural_ok otherwise

theorem structural_filterMapM (h : ∀ f ∈ format.fields, ∀ v, Structural (f.check v)) (fields : List (String × Json)) :
    Structural (fields.filterMapM (checkKnown format)) := by
  induction fields with
  | nil => exact structural_ok []
  | cons entry fields ih =>
    have hentry : Structural (checkKnown format entry) := by
      unfold checkKnown
      split
      · exact structural_ok none
      · rename_i f hf
        exact (h f (List.mem_of_find?_eq_some hf) entry.2).bind fun _ => structural_ok (some entry)
    rw [List.filterMapM_cons]
    refine hentry.bind fun kept => ?_
    cases kept with
    | none => exact ih
    | some b => exact ih.bind fun rest => structural_ok (b :: rest)

/-- **Reading an object reports types and absences only**, if the checks of the fields do. -/
theorem structural_readObject (h : ∀ f ∈ format.fields, ∀ v, Structural (f.check v)) (fields : List (String × Json)) :
    Structural (readObject format fields) := by
  rw [readObject_eq]
  refine (structural_filterMapM h fields).bind fun known => ?_
  split
  · exact nofun
  · exact structural_ok known

end ClassWeaver.Json
