import ClassWeaver.Identity.Metadata
import ClassWeaver.Proofs.Json.Records
import ClassWeaver.Proofs.Json.RoundTrip

/-!
# Metadata that was checked

Metadata of plugins and transformers is made from fields that are given one by one, or read from a document. A document
whose values are of the right types gives the same fields, and what happens then is what happens to fields given one by one;
any other document is turned down before a rule is looked at. So there is no way around the checks, and the document that
metadata is written to, which spells all fields out, is read as the metadata again.

## Contents

* `IsId`, `isPluginId_iff`, `required_eq_ok_iff`, `checkUrl_eq_ok_iff`, `checkAuthors_eq_ok_iff` — the single checks.
* `PluginMetadata.Sound`, `TransformerData.Sound`, `build_eq_ok_iff` — what the checks let through.
* `GivesText`, `PluginFields.GivenBy`, `TransformerData.GivenBy` — fields that an object gives.
* `ofObject_eq_ok_iff`, `structural_ofObject` — objects that give fields, and all others.
* `Judged`, `judged_bind` — what becomes of an object.
* `ofDocument_toDocument`, `readsBack_toDocument` — reading back what was written.
* `exists_build_iff`, `exists_ofDocument_iff` — what can be made at all.
* `metadata_sound` — all of it, for both records.
-/

namespace ClassWeaver.Identity

open ClassWeaver.Text
open Json (Mismatch InOrder Structural field? fieldOr fieldOr_eq_ok_iff)

variable {fields : List (String × Json)} {field id url name : String} {given : Option String} {text : String}

/-! ## The single checks -/

/-- The character may stand in an id behind the first one. -/
def IsIdChar (c : Char) : Prop :=
  ('a' ≤ c ∧ c ≤ 'z') ∨ ('0' ≤ c ∧ c ≤ '9') ∨ c = '_' ∨ c = '-'

/-- An id: 1 to 64 characters, a small letter in front, then small letters, digits, underscores and dashes. -/
structure IsId (id : String) : Prop where
  length : 1 ≤ id.length ∧ id.length ≤ 64
  chars : ∃ first rest, id.toList = first :: rest ∧ ('a' ≤ first ∧ first ≤ 'z') ∧ ∀ c ∈ rest, IsIdChar c

theorem isIdChar_iff {c : Char} : isIdChar c = true ↔ IsIdChar c := by
  simp [isIdChar, IsIdChar, or_assoc]

theorem isPluginId_iff : isPluginId id = true ↔ IsId id := by
  unfold isPluginId
  cases hchars : id.toList with
  | nil =>
    refine iff_of_false nofun ?_
    rintro ⟨-, first, rest, hcons, -⟩
    cases hchars.symm.trans hcons
  | cons first rest =>
    have hlength : id.length = rest.length + 1 := by
      rw [← String.length_toList, hchars, List.length_cons]
    simp only [Bool.and_eq_true, decide_eq_true_eq, List.all_eq_true, isIdChar_iff]
    constructor
    · rintro ⟨⟨hfirst, hrest⟩, hshort⟩
      exact ⟨by omega, first, rest, hchars, hfirst, hrest⟩
    · rintro ⟨⟨-, hshort⟩, first', rest', hcons, hfirst, hrest⟩
      cases hchars.symm.trans hcons
      exact ⟨⟨hfirst, hrest⟩, by omega⟩

theorem checkPluginId_eq_ok_iff : checkPluginId field id = .ok () ↔ IsId id := by
  rw [← isPluginId_iff]
  unfold checkPluginId
  by_cases hempty : id.isEmpty = true
  · rw [if_pos hempty]
    refine iff_of_false nofun ?_
    rw [String.isEmpty_iff.mp hempty]
    decide
  · rw [if_neg hempty]
    cases isPluginId id <;> simp

/-- The text holds more than blanks. -/
def NonBlank (text : String) : Prop :=
  ∃ c ∈ text.toList, isBlank c = false

theorem isBlankText_eq_false_iff : isBlankText text = false ↔ NonBlank text :=
  List.all_eq_false.trans (by simp [NonBlank])

theorem required_eq_ok_iff : required field given = .ok text ↔ given = some text ∧ NonBlank text := by
  rw [← isBlankText_eq_false_iff]
  cases given with
  | none => simp [required]
  | some found =>
    show (if isBlankText found = true then Except.error _ else Except.ok found) = .ok text ↔ _
    by_cases hblank : isBlankText found = true
    · rw [if_pos hblank]
      refine iff_of_false nofun ?_
      rintro ⟨⟨⟩, hfound⟩
      rw [hblank] at hfound
      cases hfound
    · rw [if_neg hblank, Except.ok.injEq, Option.some.injEq]
      refine ⟨?_, And.left⟩
      rintro rfl
      exact ⟨rfl, eq_false_of_ne_true hblank⟩

/-- An address of the schemes that browsers open. -/
def IsWebAddress [AddressSyntax] (url : String) : Prop :=
  ∃ scheme, AddressSyntax.scheme url = .ok scheme ∧ (scheme = "http" ∨ scheme = "https")

theorem checkUrl_eq_ok_iff [AddressSyntax] : checkUrl url = .ok () ↔ IsWebAddress url := by
  unfold checkUrl IsWebAddress
  cases AddressSyntax.scheme url with
  | error reason => simp
  | ok scheme =>
    by_cases hscheme : scheme = "http" ∨ scheme = "https"
    · simp [hscheme]
    · simp [hscheme]

theorem firstRepeated?_eq_none_iff {seen authors : List String} :
    firstRepeated? seen authors = none ↔ authors.Nodup ∧ ∀ a ∈ authors, a ∉ seen := by
  -- every author joins those that the others are compared with, so the list of these is left open
  induction authors generalizing seen with
  | nil => simp [firstRepeated?]
  | cons a rest ih =>
    unfold firstRepeated?
    by_cases hseen : a ∈ seen
    · simp [hseen]
    · rw [if_neg (by simpa using hseen), ih, List.nodup_cons, List.forall_mem_cons]
      constructor
      · rintro ⟨hnodup, hrest⟩
        refine ⟨⟨fun hmem => hrest a hmem List.mem_cons_self, hnodup⟩, hseen, fun b hb hmem => ?_⟩
        exact hrest b hb (List.mem_cons_of_mem _ hmem)
      · rintro ⟨⟨hfresh, hnodup⟩, -, hrest⟩
        refine ⟨hnodup, fun b hb hmem => ?_⟩
        rcases List.mem_cons.mp hmem with rfl | hmem
        · exact hfresh hb
        · exact hrest b hb hmem

theorem checkAuthors_eq_ok_iff {authors : List String} : checkAuthors authors = .ok () ↔ authors.Nodup := by
  have hnone : firstRepeated? [] authors = none ↔ authors.Nodup := by
    simp [firstRepeated?_eq_none_iff]
  rw [← hnone]
  unfold checkAuthors
  cases firstRepeated? [] authors <;> simp

/-! ## What the checks let through -/

/-- Metadata of a plugin that keeps the rules. -/
structure PluginMetadata.Sound [AddressSyntax] (m : PluginMetadata) : Prop where
  id : IsId m.id
  version : NonBlank m.version
  name : NonBlank m.name
  url : ∀ url, m.url = some url → IsWebAddress url
  authors : m.authors.Nodup

/-- Data of a transformer that keeps the rules. -/
structure TransformerData.Sound (d : TransformerData) : Prop where
  pluginId : IsId d.pluginId
  name : NonBlank d.name
  noColon : ':' ∉ d.name.toList

theorem forM_checkUrl_eq_ok_iff [AddressSyntax] : given.forM checkUrl = .ok () ↔ ∀ url, given = some url → IsWebAddress url := by
  cases given with
  | none => exact iff_of_true rfl nofun
  | some url =>
    show checkUrl url = .ok () ↔ _
    rw [checkUrl_eq_ok_iff]
    simp

/-- **Fields pass the checks** if they are those of metadata that keeps the rules, and then they are kept as they are. -/
theorem PluginFields.build_eq_ok_iff [AddressSyntax] {f : PluginFields} {m : PluginMetadata} :
    f.build = .ok m ↔ f = m.toFields ∧ m.Sound := by
  unfold build
  simp only [except_bind_eq_ok]
  constructor
  · rintro ⟨⟨⟩, hid, version, hversion, name, hname, ⟨⟩, hurl, ⟨⟩, hauthors, hbuilt⟩
    cases hbuilt
    obtain ⟨hv, hversion⟩ := required_eq_ok_iff.mp hversion
    obtain ⟨hn, hname⟩ := required_eq_ok_iff.mp hname
    refine ⟨?_, checkPluginId_eq_ok_iff.mp hid, hversion, hname, forM_checkUrl_eq_ok_iff.mp hurl,
      checkAuthors_eq_ok_iff.mp hauthors⟩
    unfold PluginMetadata.toFields
    rw [← hv, ← hn]
  · rintro ⟨rfl, h⟩
    exact ⟨(), checkPluginId_eq_ok_iff.mpr h.id, m.version, required_eq_ok_iff.mpr ⟨rfl, h.version⟩, m.name,
      required_eq_ok_iff.mpr ⟨rfl, h.name⟩, (), forM_checkUrl_eq_ok_iff.mpr h.url, (),
      checkAuthors_eq_ok_iff.mpr h.authors, rfl⟩

/-- The data as one value, checked. -/
def TransformerData.check (d : TransformerData) : Except Violation TransformerData :=
  build d.pluginId d.name d.description d.enabledByDefault

/-- **Data passes the checks** if it keeps the rules, and then it is kept as it is. -/
theorem TransformerData.check_eq_ok_iff {d d' : TransformerData} : d.check = .ok d' ↔ d' = d ∧ d.Sound := by
  unfold check build
  rw [except_bind_eq_ok]
  by_cases hrefused : isBlankText d.name = true ∨ ':' ∈ d.name.toList
  · refine iff_of_false ?_ ?_
    · rintro ⟨⟨⟩, -, h⟩
      rw [if_pos (by simpa using hrefused)] at h
      cases h
    · rintro ⟨-, h⟩
      rcases hrefused with hblank | hcolon
      · rw [isBlankText_eq_false_iff.mpr h.name] at hblank
        cases hblank
      · exact h.noColon hcolon
  · rw [if_neg (by simpa using hrefused)]
    push Not at hrefused
    constructor
    · rintro ⟨⟨⟩, hid, h⟩
      cases h
      exact ⟨rfl, checkPluginId_eq_ok_iff.mp hid, isBlankText_eq_false_iff.mp (by simpa using hrefused.1), hrefused.2⟩
    · rintro ⟨rfl, h⟩
      exact ⟨(), checkPluginId_eq_ok_iff.mpr h.pluginId, rfl⟩

/-! ## Fields that objects give -/

/-- The object gives the text, or there is none as the field is null or missing. -/
inductive GivesText (fields : List (String × Json)) (name : String) : Option String → Prop
  | missing (h : field? name fields = none) : GivesText fields name none
  | null (h : field? name fields = some .null) : GivesText fields name none
  | text {s : String} (h : field? name fields = some (.string s)) : GivesText fields name (some s)

/-- The object gives the fields of a plugin. -/
structure PluginFields.GivenBy (fields : List (String × Json)) (f : PluginFields) : Prop where
  id : field? "id" fields = some (.string f.id)
  version : GivesText fields "version" f.version
  name : GivesText fields "name" f.name
  logo : GivesText fields "logo" f.logo
  url : GivesText fields "url" f.url
  credits : GivesText fields "credits" f.credits
  description : GivesText fields "description" f.description
  authors : field? "authors" fields = some (.array (f.authors.map .string)) ∨
    field? "authors" fields = none ∧ f.authors = []

/-- The object gives the fields of a transformer; one that does not say so is enabled. -/
structure TransformerData.GivenBy (fields : List (String × Json)) (d : TransformerData) : Prop where
  pluginId : field? "plugin_id" fields = some (.string d.pluginId)
  name : field? "name" fields = some (.string d.name)
  description : GivesText fields "description" d.description
  enabledByDefault : field? "enabled_by_default" fields = some (.bool d.enabledByDefault) ∨
    field? "enabled_by_default" fields = none ∧ d.enabledByDefault = true

theorem givesText_iff : GivesText fields name given ↔ fieldOr fields name (Json.optional Json.text) none = .ok given := by
  rw [fieldOr_eq_ok_iff]
  simp only [Json.optional_text_eq_ok_iff]
  constructor
  · rintro (h | h | h)
    · exact .inr ⟨h, rfl⟩
    · exact .inl ⟨_, h, .inl ⟨rfl, rfl⟩⟩
    · exact .inl ⟨_, h, .inr ⟨_, rfl, rfl⟩⟩
  · rintro (⟨v, h, ⟨rfl, rfl⟩ | ⟨s, rfl, rfl⟩⟩ | ⟨h, rfl⟩)
    · exact .null h
    · exact .text h
    · exact .missing h

/-- A text that has to be there. -/
theorem text_given_iff : field? name fields = some (.string text) ↔
    (field? name fields).isSome = true ∧ fieldOr fields name Json.text "" = .ok text := by
  rw [fieldOr_eq_ok_iff]
  simp only [Json.text_eq_ok_iff]
  constructor
  · intro h
    exact ⟨Option.isSome_of_mem h, .inl ⟨_, h, rfl⟩⟩
  · rintro ⟨hthere, ⟨v, h, rfl⟩ | ⟨hnone, -⟩⟩
    · exact h
    · rw [hnone] at hthere
      cases hthere

theorem texts_given_iff {texts : List String} :
    (field? name fields = some (.array (texts.map .string)) ∨ field? name fields = none ∧ texts = []) ↔
      fieldOr fields name Json.texts [] = .ok texts := by
  rw [fieldOr_eq_ok_iff]
  simp only [Json.texts_eq_ok_iff]
  simp

theorem boolean_given_iff {b otherwise : Bool} :
    (field? name fields = some (.bool b) ∨ field? name fields = none ∧ b = otherwise) ↔
      fieldOr fields name Json.boolean otherwise = .ok b := by
  rw [fieldOr_eq_ok_iff]
  simp only [Json.boolean_eq_ok_iff]
  simp

/-- **An object is read as the fields that it gives.** -/
theorem PluginFields.ofObject_eq_ok_iff (h : InOrder fields) {f : PluginFields} :
    ofDocument (.object fields) = .ok f ↔ f.GivenBy fields := by
  have hnames : (format.fields.map Json.FieldFormat.name).Nodup := by
    unfold format
    decide
  have hobject : Json.readRecord format (.object fields) = Json.readObject format fields := rfl
  unfold ofDocument
  simp only [except_bind_eq_ok, hobject, Json.readObject_eq_ok_iff h hnames]
  constructor
  · rintro ⟨_, ⟨hfits, rfl⟩, id, hid, version, hversion, name, hname, logo, hlogo, url, hurl, credits, hcredits,
      description, hdescription, authors, hauthors, hf⟩
    cases hf
    simp (disch := decide) only [Json.fieldOr_known] at *
    -- the reader would put a text in place of a missing id, but an object without one does not fit
    have hthere : (field? "id" fields).isSome = true := hfits.present _ List.mem_cons_self rfl
    exact ⟨text_given_iff.mpr ⟨hthere, hid⟩, givesText_iff.mpr hversion, givesText_iff.mpr hname,
      givesText_iff.mpr hlogo, givesText_iff.mpr hurl, givesText_iff.mpr hcredits, givesText_iff.mpr hdescription,
      texts_given_iff.mpr hauthors⟩
  · intro hgiven
    obtain ⟨hthere, hid⟩ := text_given_iff.mp hgiven.id
    have hversion := givesText_iff.mp hgiven.version
    have hname := givesText_iff.mp hgiven.name
    have hlogo := givesText_iff.mp hgiven.logo
    have hurl := givesText_iff.mp hgiven.url
    have hcredits := givesText_iff.mp hgiven.credits
    have hdescription := givesText_iff.mp hgiven.description
    have hauthors := texts_given_iff.mp hgiven.authors
    have hfits : Json.Fits format fields := by
      constructor
      · simp only [format, List.forall_mem_cons]
        exact ⟨fun v => Json.map_eq_ok_of_fieldOr hid, fun v => Json.map_eq_ok_of_fieldOr hversion,
          fun v => Json.map_eq_ok_of_fieldOr hname, fun v => Json.map_eq_ok_of_fieldOr hlogo,
          fun v => Json.map_eq_ok_of_fieldOr hurl, fun v => Json.map_eq_ok_of_fieldOr hcredits,
          fun v => Json.map_eq_ok_of_fieldOr hdescription, fun v => Json.map_eq_ok_of_fieldOr hauthors, nofun⟩
      · simp [format, hthere]
    refine ⟨_, ⟨hfits, rfl⟩, ?_⟩
    simp (disch := decide) only [Json.fieldOr_known]
    exact ⟨_, hid, _, hversion, _, hname, _, hlogo, _, hurl, _, hcredits, _, hdescription, _, hauthors, rfl⟩

/-- The data that a document gives, before any check. -/
def TransformerData.unchecked (document : Json) : Except Mismatch TransformerData := do
  let fields ← Json.readRecord format document
  let pluginId ← fieldOr fields "plugin_id" Json.text ""
  let name ← fieldOr fields "name" Json.text ""
  let description ← fieldOr fields "description" (Json.optional Json.text) none
  let enabledByDefault ← fieldOr fields "enabled_by_default" Json.boolean true
  return ⟨pluginId, name, description, enabledByDefault⟩

theorem TransformerData.ofDocument_eq (document : Json) :
    ofDocument document = unchecked document >>= fun d => d.check.mapError fun v => .custom v.message := by
  unfold ofDocument unchecked
  simp only [bind_assoc, pure_bind]
  refine bind_congr fun fields => bind_congr fun pluginId => bind_congr fun name => ?_
  refine bind_congr fun description => bind_congr fun enabledByDefault => ?_
  show _ = (build pluginId name description enabledByDefault).mapError fun v => Mismatch.custom v.message
  cases build pluginId name description enabledByDefault <;> rfl

theorem PluginMetadata.ofDocument_eq [AddressSyntax] (document : Json) :
    ofDocument document = PluginFields.ofDocument document >>= fun f => f.build.mapError fun v => .custom v.message := by
  unfold ofDocument
  refine congrArg _ (funext fun f => ?_)
  cases f.build <;> rfl

/-- **An object is read as the data that it gives.** -/
theorem TransformerData.ofObject_eq_ok_iff (h : InOrder fields) {d : TransformerData} :
    unchecked (.object fields) = .ok d ↔ d.GivenBy fields := by
  have hnames : (format.fields.map Json.FieldFormat.name).Nodup := by
    unfold format
    decide
  have hobject : Json.readRecord format (.object fields) = Json.readObject format fields := rfl
  unfold unchecked
  simp only [except_bind_eq_ok, hobject, Json.readObject_eq_ok_iff h hnames]
  constructor
  · rintro ⟨_, ⟨hfits, rfl⟩, id, hid, name, hname, description, hdescription, enabled, henabled, hd⟩
    cases hd
    simp (disch := decide) only [Json.fieldOr_known] at *
    have hthere : ∀ f ∈ format.fields, f.optionalInObject = false → (field? f.name fields).isSome = true := hfits.present
    simp only [format, List.forall_mem_cons] at hthere
    exact ⟨text_given_iff.mpr ⟨hthere.1 trivial, hid⟩, text_given_iff.mpr ⟨hthere.2.1 trivial, hname⟩,
      givesText_iff.mpr hdescription, boolean_given_iff.mpr henabled⟩
  · intro hgiven
    obtain ⟨hidThere, hid⟩ := text_given_iff.mp hgiven.pluginId
    obtain ⟨hnameThere, hname⟩ := text_given_iff.mp hgiven.name
    have hdescription := givesText_iff.mp hgiven.description
    have henabled := boolean_given_iff.mp hgiven.enabledByDefault
    have hfits : Json.Fits format fields := by
      constructor
      · simp only [format, List.forall_mem_cons]
        exact ⟨fun v => Json.map_eq_ok_of_fieldOr hid, fun v => Json.map_eq_ok_of_fieldOr hname,
          fun v => Json.map_eq_ok_of_fieldOr hdescription, fun v => Json.map_eq_ok_of_fieldOr henabled, nofun⟩
      · simp [format, hidThere, hnameThere]
    refine ⟨_, ⟨hfits, rfl⟩, ?_⟩
    simp (disch := decide) only [Json.fieldOr_known]
    exact ⟨_, hid, _, hname, _, hdescription, _, henabled, rfl⟩

/-! ## Objects of other types -/

theorem PluginFields.structural_ofObject (fields : List (String × Json)) : Structural (ofDocument (.object fields)) := by
  have hchecks : ∀ f ∈ format.fields, ∀ v, Structural (f.check v) := by
    have htext (v : Json) := (Json.structural_text v).map fun _ => ()
    have hoptional (v : Json) := (Json.structural_optional Json.structural_text v).map fun _ => ()
    have htexts (v : Json) := (Json.structural_texts v).map fun _ => ()
    simp only [format, List.forall_mem_cons]
    exact ⟨htext, hoptional, hoptional, hoptional, hoptional, hoptional, hoptional, htexts, nofun⟩
  have hoptional (known : List (String × Json)) (name : String) :
      Structural (fieldOr known name (Json.optional Json.text) none) :=
    Json.structural_fieldOr (Json.structural_optional Json.structural_text) known name none
  refine (Json.structural_readObject hchecks fields).bind fun known => ?_
  refine (Json.structural_fieldOr Json.structural_text known "id" "").bind fun id => ?_
  refine (hoptional known "version").bind fun version => (hoptional known "name").bind fun name => ?_
  refine (hoptional known "logo").bind fun logo => (hoptional known "url").bind fun url => ?_
  refine (hoptional known "credits").bind fun credits => (hoptional known "description").bind fun description => ?_
  exact (Json.structural_fieldOr Json.structural_texts known "authors" []).bind fun authors => Json.structural_ok _

theorem TransformerData.structural_unchecked (fields : List (String × Json)) : Structural (unchecked (.object fields)) := by
  have hchecks : ∀ f ∈ format.fields, ∀ v, Structural (f.check v) := by
    have htext (v : Json) := (Json.structural_text v).map fun _ => ()
    have hoptional (v : Json) := (Json.structural_optional Json.structural_text v).map fun _ => ()
    have hboolean (v : Json) := (Json.structural_boolean v).map fun _ => ()
    simp only [format, List.forall_mem_cons]
    exact ⟨htext, htext, hoptional, hboolean, nofun⟩
  refine (Json.structural_readObject hchecks fields).bind fun known => ?_
  refine (Json.structural_fieldOr Json.structural_text known "plugin_id" "").bind fun id => ?_
  refine (Json.structural_fieldOr Json.structural_text known "name" "").bind fun name => ?_
  refine (Json.structural_fieldOr (Json.structural_optional Json.structural_text) known "description" none).bind
    fun description => ?_
  exact (Json.structural_fieldOr Json.structural_boolean known "enabled_by_default" true).bind
    fun enabled => Json.structural_ok _

/-! ## What becomes of objects -/

/-- What becomes of an object: if it gives fields that pass the checks, they are accepted as what the checks make of them; if
they do not pass, the broken rule is reported; if it gives no fields, a value is missing or of another type, and no rule is
looked at. -/
structure Judged {α β : Type} (Given : α → Prop) (check : α → Except Violation β) (result : Except Mismatch β) : Prop where
  accepted : ∀ b, result = .ok b ↔ ∃ a, Given a ∧ check a = .ok b
  broken : ∀ a v, Given a → check a = .error v → result = .error (.custom v.message)
  misfit : (∀ a, ¬ Given a) → ∃ e, result = .error e ∧ ∀ message, e ≠ .custom message

/-- **Reading and checking is judging**, if what is read is what is given. -/
theorem judged_bind {α β : Type} {Given : α → Prop} {check : α → Except Violation β} {read : Except Mismatch α}
    (hread : ∀ a, read = .ok a ↔ Given a) (hstructural : Structural read) :
    Judged Given check (read >>= fun a => (check a).mapError fun v => .custom v.message) where
  accepted b := by
    simp only [except_bind_eq_ok, except_mapError_eq_ok, hread]
  broken a v hgiven hcheck := by
    rw [(hread a).mpr hgiven]
    show (check a).mapError _ = _
    rw [hcheck]
    rfl
  misfit hnone := by
    cases hresult : read with
    | ok a => exact absurd ((hread a).mp hresult) (hnone a)
    | error e =>
      refine ⟨e, rfl, fun message heq => hstructural message ?_⟩
      rw [hresult, heq]

theorem PluginMetadata.judged [AddressSyntax] (h : InOrder fields) :
    Judged (PluginFields.GivenBy fields) PluginFields.build (ofDocument (.object fields)) := by
  rw [ofDocument_eq]
  exact judged_bind (fun _ => PluginFields.ofObject_eq_ok_iff h) (PluginFields.structural_ofObject fields)

theorem TransformerData.judged (h : InOrder fields) : Judged (GivenBy fields) check (ofDocument (.object fields)) := by
  rw [ofDocument_eq]
  exact judged_bind (fun _ => ofObject_eq_ok_iff h) (structural_unchecked fields)

/-! ## Writing and reading back -/

theorem givesText_optionalJson (h : field? name fields = some (optionalJson given)) : GivesText fields name given := by
  cases given with
  | none => exact .null h
  | some s => exact .text h

theorem formed_optionalJson (depth : Nat) (given : Option String) : Json.Formed depth (optionalJson given) := by
  cases given <;> exact trivial

theorem decimals_optionalJson (given : Option String) : Json.decimals (optionalJson given) = [] := by
  cases given <;> rfl

theorem formedAll_strings (depth : Nat) (texts : List String) : Json.FormedAll depth (texts.map .string) := by
  induction texts with
  | nil => exact trivial
  | cons s texts ih => exact ⟨trivial, ih⟩

theorem decimalsAll_strings (texts : List String) : Json.decimalsAll (texts.map .string) = [] := by
  induction texts with
  | nil => rfl
  | cons s texts ih => exact ih

/-- The fields of a plugin's document, in the order of their keys. -/
def PluginMetadata.documentFields (m : PluginMetadata) : List (String × Json) :=
  [("authors", .array (m.authors.map .string)), ("credits", optionalJson m.credits),
    ("description", optionalJson m.description), ("id", .string m.id), ("logo", optionalJson m.logo),
    ("name", .string m.name), ("url", optionalJson m.url), ("version", .string m.version)]

theorem PluginMetadata.toDocument_eq (m : PluginMetadata) : m.toDocument = .object m.documentFields :=
  rfl

theorem PluginMetadata.inOrder_documentFields (m : PluginMetadata) : InOrder m.documentFields := by
  have hkeys : (["authors", "credits", "description", "id", "logo", "name", "url", "version"] : List String).Pairwise
      (· < ·) := by
    decide
  exact List.pairwise_map.mp (show (m.documentFields.map Prod.fst).Pairwise (· < ·) from hkeys)

theorem PluginMetadata.givenBy_documentFields (m : PluginMetadata) : m.toFields.GivenBy m.documentFields where
  id := rfl
  version := .text rfl
  name := .text rfl
  logo := givesText_optionalJson rfl
  url := givesText_optionalJson rfl
  credits := givesText_optionalJson rfl
  description := givesText_optionalJson rfl
  authors := .inl rfl

/-- **Metadata of a plugin that keeps the rules is read back.** -/
theorem PluginMetadata.ofDocument_toDocument [AddressSyntax] {m : PluginMetadata} (h : m.Sound) :
    ofDocument m.toDocument = .ok m :=
  ((judged m.inOrder_documentFields).accepted m).mpr
    ⟨m.toFields, m.givenBy_documentFields, PluginFields.build_eq_ok_iff.mpr ⟨rfl, h⟩⟩

theorem PluginMetadata.readsBack_toDocument [DocumentSyntax] [LawfulDocumentSyntax] (m : PluginMetadata) :
    m.toDocument.ReadsBack := by
  rw [toDocument_eq]
  refine LawfulDocumentSyntax.readsBack ⟨by decide, m.inOrder_documentFields, ?_⟩ ?_
  · simp [documentFields, Json.FormedFields, Json.Formed, formed_optionalJson, formedAll_strings, Json.maxDepth]
  · simp [Json.decimals, Json.decimalsFields, documentFields, decimals_optionalJson, decimalsAll_strings]

/-- The fields of a transformer's document, in the order of their keys. -/
def TransformerData.documentFields (d : TransformerData) : List (String × Json) :=
  [("description", optionalJson d.description), ("enabled_by_default", .bool d.enabledByDefault),
    ("name", .string d.name), ("plugin_id", .string d.pluginId)]

theorem TransformerData.toDocument_eq (d : TransformerData) : d.toDocument = .object d.documentFields :=
  rfl

theorem TransformerData.inOrder_documentFields (d : TransformerData) : InOrder d.documentFields := by
  have hkeys : (["description", "enabled_by_default", "name", "plugin_id"] : List String).Pairwise (· < ·) := by
    decide
  exact List.pairwise_map.mp (show (d.documentFields.map Prod.fst).Pairwise (· < ·) from hkeys)

theorem TransformerData.givenBy_documentFields (d : TransformerData) : d.GivenBy d.documentFields where
  pluginId := rfl
  name := rfl
  description := givesText_optionalJson rfl
  enabledByDefault := .inl rfl

/-- **Data of a transformer that keeps the rules is read back.** -/
theorem TransformerData.ofDocument_toDocument {d : TransformerData} (h : d.Sound) : ofDocument d.toDocument = .ok d :=
  ((judged d.inOrder_documentFields).accepted d).mpr ⟨d, d.givenBy_documentFields, check_eq_ok_iff.mpr ⟨rfl, h⟩⟩

theorem TransformerData.readsBack_toDocument [DocumentSyntax] [LawfulDocumentSyntax] (d : TransformerData) :
    d.toDocument.ReadsBack := by
  rw [toDocument_eq]
  refine LawfulDocumentSyntax.readsBack ⟨by decide, d.inOrder_documentFields, ?_⟩ ?_
  · simp [documentFields, Json.FormedFields, Json.Formed, formed_optionalJson]
  · simp [Json.decimals, Json.decimalsFields, documentFields, decimals_optionalJson]

/-! ## Metadata is sound -/

theorem PluginMetadata.exists_build_iff [AddressSyntax] {m : PluginMetadata} :
    (∃ f : PluginFields, f.build = .ok m) ↔ m.Sound := by
  simp [PluginFields.build_eq_ok_iff]

theorem PluginMetadata.exists_ofDocument_iff [AddressSyntax] {m : PluginMetadata} :
    (∃ document, ofDocument document = .ok m) ↔ m.Sound := by
  constructor
  · rintro ⟨document, hread⟩
    -- a document is one way to come by fields, so the metadata was built from some
    rw [ofDocument_eq] at hread
    obtain ⟨f, -, hbuilt⟩ := except_bind_eq_ok.mp hread
    exact exists_build_iff.mp ⟨f, except_mapError_eq_ok.mp hbuilt⟩
  · exact fun h => ⟨m.toDocument, ofDocument_toDocument h⟩

theorem TransformerData.exists_build_iff {d : TransformerData} :
    (∃ pluginId name description enabled, build pluginId name description enabled = .ok d) ↔ d.Sound := by
  constructor
  · rintro ⟨pluginId, name, description, enabled, hbuilt⟩
    have hchecked : check ⟨pluginId, name, description, enabled⟩ = .ok d := hbuilt
    obtain ⟨rfl, hsound⟩ := check_eq_ok_iff.mp hchecked
    exact hsound
  · exact fun h => ⟨_, _, _, _, check_eq_ok_iff.mpr ⟨rfl, h⟩⟩

theorem TransformerData.exists_ofDocument_iff {d : TransformerData} : (∃ document, ofDocument document = .ok d) ↔ d.Sound := by
  constructor
  · rintro ⟨document, hread⟩
    rw [ofDocument_eq] at hread
    obtain ⟨given, -, hchecked⟩ := except_bind_eq_ok.mp hread
    obtain ⟨rfl, hsound⟩ := check_eq_ok_iff.mp (except_mapError_eq_ok.mp hchecked)
    exact hsound
  · exact fun h => ⟨d.toDocument, ofDocument_toDocument h⟩

/-- **Metadata keeps the rules however it was made, and objects are judged by the rules that fields are judged by**, for any
reading of web addresses. What keeps the rules can be made either way, and what was written of it is read back, as a document
and, in any syntax to rely upon, as its text. -/
theorem metadata_sound [AddressSyntax] :
    (∀ fields, InOrder fields →
      Judged (PluginFields.GivenBy fields) PluginFields.build (PluginMetadata.ofDocument (.object fields)) ∧
      Judged (TransformerData.GivenBy fields)
        (fun d => TransformerData.build d.pluginId d.name d.description d.enabledByDefault)
        (TransformerData.ofDocument (.object fields))) ∧
    (∀ m : PluginMetadata, ((∃ f : PluginFields, f.build = .ok m) ↔ m.Sound) ∧
      ((∃ document, PluginMetadata.ofDocument document = .ok m) ↔ m.Sound) ∧
      (m.Sound → PluginMetadata.ofDocument m.toDocument = .ok m) ∧
      ∀ [DocumentSyntax] [LawfulDocumentSyntax], m.toDocument.ReadsBack) ∧
    (∀ d : TransformerData,
      ((∃ pluginId name description enabled, TransformerData.build pluginId name description enabled = .ok d) ↔ d.Sound) ∧
      ((∃ document, TransformerData.ofDocument document = .ok d) ↔ d.Sound) ∧
      (d.Sound → TransformerData.ofDocument d.toDocument = .ok d) ∧
      ∀ [DocumentSyntax] [LawfulDocumentSyntax], d.toDocument.ReadsBack) := by
  refine ⟨fun fields h => ⟨PluginMetadata.judged h, TransformerData.judged h⟩, fun m => ?_, fun d => ?_⟩
  · refine ⟨PluginMetadata.exists_build_iff, PluginMetadata.exists_ofDocument_iff, ?_, ?_⟩
    · exact PluginMetadata.ofDocument_toDocument
    · exact m.readsBack_toDocument
  · refine ⟨TransformerData.exists_build_iff, TransformerData.exists_ofDocument_iff, ?_, ?_⟩
    · exact TransformerData.ofDocument_toDocument
    · exact d.readsBack_toDocument

/-- A plugin with an address and two authors. -/
def lantern : PluginMetadata where
  id := "lantern"
  version := "1.0"
  name := "Lantern"
  logo := none
  url := some "http://[::1]/lantern"
  credits := none
  description := none
  authors := ["Ada", "Grace"]

/-- An object that leaves fields out and has others, which do not matter. -/
def lanternFields : List (String × Json) :=
  [("authors", .array [.string "Ada", .string "Grace"]), ("id", .string "lantern"), ("logo", .null),
    ("name", .string "Lantern"), ("theme", .integer 3), ("url", .string "http://[::1]/lantern"), ("version", .string "1.0")]

theorem givenBy_lanternFields : lantern.toFields.GivenBy lanternFields where
  id := rfl
  version := .text rfl
  name := .text rfl
  logo := .null rfl
  url := .text rfl
  credits := .missing rfl
  description := .missing rfl
  authors := .inl rfl

/-- A transformer whose name has a colon. -/
def colonFields : List (String × Json) :=
  [("name", .string "glow:dim"), ("plugin_id", .string "lantern")]

theorem metadata_sound_lantern :
    (InOrder lanternFields ∧ PluginMetadata.ofDocument (.object lanternFields) = .ok lantern ∧ lantern.Sound ∧
      PluginMetadata.ofDocument lantern.toDocument = .ok lantern ∧ lantern.toDocument.ReadsBack) ∧
    InOrder colonFields ∧
      TransformerData.ofDocument (.object colonFields) =
        .error (.custom (Violation.invalidTransformerName "glow:dim").message) := by
  have hlantern : InOrder lanternFields := by
    unfold InOrder lanternFields
    decide
  have hcolon : InOrder colonFields := by
    unfold InOrder colonFields
    decide
  have hbuilt : lantern.toFields.build = .ok lantern := by
    decide +kernel
  have hbroken : TransformerData.build "lantern" "glow:dim" none true = .error (.invalidTransformerName "glow:dim") := by
    decide +kernel
  have hread := ((metadata_sound.1 lanternFields hlantern).1.accepted lantern).mpr ⟨_, givenBy_lanternFields, hbuilt⟩
  obtain ⟨-, hsound, hback, htext⟩ := metadata_sound.2.1 lantern
  have hlanternSound := hsound.mp ⟨_, hread⟩
  refine ⟨⟨hlantern, hread, hlanternSound, hback hlanternSound, htext⟩, hcolon, ?_⟩
  exact (metadata_sound.1 colonFields hcolon).2.broken ⟨"lantern", "glow:dim", none, true⟩
    (.invalidTransformerName "glow:dim") ⟨rfl, rfl, .missing rfl, .inr ⟨rfl, rfl⟩⟩ hbroken

end ClassWeaver.Identity
