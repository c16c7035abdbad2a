import ClassWeaver.Proofs.Edits
import ClassWeaver.Proofs.Json.Fields
import ClassWeaver.Registry.Configuration

/-!
# Filling documents

Each kind of document has its own way to be filled: switches that are missing are off, flags that are missing are the
transformers' defaults, and settings are what the transformer makes of its document. All three come to rest after one
filling: what was filled lacks nothing, so filling it again gives the same values and the same document.

## Contents

* `fillSwitches_eq_ok_iff`, `fillSwitches_again` — switches that were filled.
* `fillFlags_eq`, `fillFlags_again` — flags that were filled.
* `flagsOf_flagsDocument`, `flagsOf_object` — flags and their document.
* `SettingsFormat.Faithful`, `settle_typed`, `settle_again` — settings of a type whose documents give the value back.
-/

namespace ClassWeaver

open Json (field? fillField fillFields Keeps)

/-! ## Switches -/

variable {name : String} {on : Bool} {fields filled : List (String × Json)} {switches : Switches}

/-- The fields hold a switch, with its state. -/
def SwitchIs (name : String) (on : Bool) (fields : List (String × Json)) : Prop :=
  ∃ value, field? name fields = some value ∧ (value.get? "enabled").bind Json.toBool? = some on

/-- A switch that is there stays what it is when other fields come in. -/
theorem switchIs_iff_of_keeps (hkeeps : Keeps fields filled) (hname : (field? name fields).isSome = true) :
    SwitchIs name on fields ↔ SwitchIs name on filled := by
  obtain ⟨value, hvalue⟩ := Option.isSome_iff_exists.mp hname
  unfold SwitchIs
  rw [hvalue, hkeeps name value hvalue]

/-- A switch that is off. -/
def switchOff : Json :=
  .ofFields [("enabled", .bool false)]

/-- What a document of switches holds unless it says otherwise. -/
def switchDefaults : List (String × Json) :=
  [("_comment", .string switchComment), ("dump", switchOff), ("emergency_mode", switchOff),
    ("disable_jar_copying", switchOff)]

/-- The states of all switches are what the fields say. -/
structure Switches.IsIn (switches : Switches) (fields : List (String × Json)) : Prop where
  dump : SwitchIs "dump" switches.dump fields
  emergencyMode : SwitchIs "emergency_mode" switches.emergencyMode fields
  disableJarCopying : SwitchIs "disable_jar_copying" switches.disableJarCopying fields

/-- A switch is filled in as one that is off, and its state is what it is in the end. -/
theorem fillSwitch_eq_ok_iff : fillSwitch name fields = .ok (on, filled) ↔
    fillField fields (name, switchOff) = filled ∧ SwitchIs name on filled := by
  unfold fillSwitch fillField SwitchIs
  dsimp only
  cases hfield : field? name fields with
  | some value =>
    rw [if_pos Option.isSome_some]
    dsimp only
    cases hon : (value.get? "enabled").bind Json.toBool? with
    | some enabled =>
      constructor
      · intro h
        cases h
        exact ⟨rfl, value, hfield, hon⟩
      · rintro ⟨rfl, found, hfound, henabled⟩
        obtain rfl := Option.some.inj (hfield.symm.trans hfound)
        rw [hon] at henabled
        cases henabled
        rfl
    | none =>
      refine iff_of_false nofun ?_
      rintro ⟨rfl, found, hfound, henabled⟩
      obtain rfl := Option.some.inj (hfield.symm.trans hfound)
      rw [hon] at henabled
      cases henabled
  | none =>
    rw [if_neg (by simp)]
    have hoff : (switchOff.get? "enabled").bind Json.toBool? = some false := by decide
    constructor
    · intro h
      cases h
      exact ⟨rfl, switchOff, Json.field?_insertField_self, hoff⟩
    · rintro ⟨rfl, found, hfound, henabled⟩
      obtain rfl := Option.some.inj (Json.field?_insertField_self.symm.trans hfound)
      rw [hoff] at henabled
      cases henabled
      rfl

/-- **Switches that are missing are off**, the others are what the document says, and nothing else is changed. -/
theorem fillSwitches_eq_ok_iff : fillSwitches fields = .ok (switches, filled) ↔
    fillFields fields switchDefaults = filled ∧ switches.IsIn filled := by
  show (fillSwitch "dump" (fillField fields ("_comment", .string switchComment)) >>= _) = _ ↔
    fillField (fillField (fillField (fillField fields ("_comment", .string switchComment)) ("dump", switchOff))
      ("emergency_mode", switchOff)) ("disable_jar_copying", switchOff) = filled ∧ _
  generalize fillField fields ("_comment", .string switchComment) = start
  -- what a switch is when its turn comes is what it is in the end
  have hdump (on : Bool) : SwitchIs "dump" on (fillField start ("dump", switchOff)) ↔ _ :=
    switchIs_iff_of_keeps ((Json.keeps_fillField _ ("emergency_mode", switchOff)).of_keeps
      (Json.keeps_fillField _ ("disable_jar_copying", switchOff))) (Json.isSome_fillField start ("dump", switchOff))
  have hemergency (on : Bool) : SwitchIs "emergency_mode" on (fillField _ ("emergency_mode", switchOff)) ↔ _ :=
    switchIs_iff_of_keeps (Json.keeps_fillField (fillField (fillField start ("dump", switchOff))
      ("emergency_mode", switchOff)) ("disable_jar_copying", switchOff)) (Json.isSome_fillField _ ("emergency_mode", switchOff))
  constructor
  · intro h
    obtain ⟨⟨dump, first⟩, hfirst, h⟩ := except_bind_eq_ok.mp h
    obtain ⟨⟨emergencyMode, second⟩, hsecond, h⟩ := except_bind_eq_ok.mp h
    obtain ⟨⟨disableJarCopying, third⟩, hthird, h⟩ := except_bind_eq_ok.mp h
    cases h
    obtain ⟨rfl, hfirst⟩ := fillSwitch_eq_ok_iff.mp hfirst
    obtain ⟨rfl, hsecond⟩ := fillSwitch_eq_ok_iff.mp hsecond
    obtain ⟨rfl, hthird⟩ := fillSwitch_eq_ok_iff.mp hthird
    exact ⟨rfl, (hdump dump).mp hfirst, (hemergency emergencyMode).mp hsecond, hthird⟩
  · rintro ⟨rfl, hswitches⟩
    have hfirst := fillSwitch_eq_ok_iff.mpr ⟨rfl, (hdump _).mpr hswitches.dump⟩
    have hsecond := fillSwitch_eq_ok_iff.mpr ⟨rfl, (hemergency _).mpr hswitches.emergencyMode⟩
    have hthird := fillSwitch_eq_ok_iff.mpr ⟨rfl, hswitches.disableJarCopying⟩
    exact except_bind_eq_ok.mpr ⟨_, hfirst, except_bind_eq_ok.mpr ⟨_, hsecond, except_bind_eq_ok.mpr ⟨_, hthird, rfl⟩⟩⟩

/-- Switches that were filled in lack nothing. -/
theorem fillSwitches_again (h : fillSwitches fields = .ok (switches, filled)) :
    fillSwitches filled = .ok (switches, filled) := by
  obtain ⟨rfl, hswitches⟩ := fillSwitches_eq_ok_iff.mp h
  exact fillSwitches_eq_ok_iff.mpr ⟨Json.fillFields_again, hswitches⟩

/-- What a document of switches becomes, with the switches that it sets. -/
def completeSwitches (existing : Option Json) : Except DocumentFault (Switches × Json) := do
  let fields ← switchFields existing
  let (switches, filled) ← fillSwitches fields
  return (switches, .object filled)

/-! ## Flags -/

variable {flags : List (String × Bool)} {transformers others : List Transformer}

/-- The flag of each transformer unless a document says otherwise. -/
def flagDefaults (transformers : List Transformer) : List (String × Bool) :=
  transformers.map fun t => (t.registryName, t.data.enabledByDefault)

/-- **Flags that are missing are the transformers' defaults.** -/
theorem fillFlags_eq (flags : List (String × Bool)) (transformers : List Transformer) :
    fillFlags flags transformers = fillFields flags (flagDefaults transformers) := by
  unfold fillFields flagDefaults
  rw [List.foldl_map]
  rfl

/-- Flags that were filled in lack nothing. -/
theorem fillFlags_again : fillFlags (fillFlags flags transformers) transformers = fillFlags flags transformers := by
  rw [fillFlags_eq, fillFlags_eq, Json.fillFields_again]

/-- Flags depend on what transformers say about themselves, and on nothing else of them. -/
theorem fillFlags_congr (h : transformers.map Transformer.data = others.map Transformer.data) :
    fillFlags flags transformers = fillFlags flags others := by
  have hdefaults (ts : List Transformer) :
      flagDefaults ts = (ts.map Transformer.data).map fun d => (d.registryName, d.enabledByDefault) := by
    rw [List.map_map]
    rfl
  rw [fillFlags_eq, fillFlags_eq, hdefaults, hdefaults, h]

theorem flagsOf_flagsDocument (flags : List (String × Bool)) : flagsOf (some (flagsDocument flags)) = .ok flags := by
  show (flags.map fun entry => (entry.1, Json.bool entry.2)).mapM
    (fun entry => do return (entry.1, ← Json.boolean entry.2)) = .ok flags
  induction flags with
  | nil => rfl
  | cons entry flags ih =>
    rw [List.map_cons, List.mapM_cons, ih]
    rfl

/-- Only flags are read as flags. -/
theorem flagsOf_object {fields : List (String × Json)} (h : flagsOf (some (.object fields)) = .ok flags) :
    .object fields = flagsDocument flags := by
  have hread : fields.mapM (fun entry => do return (entry.1, ← Json.boolean entry.2)) = .ok flags := h
  clear h
  induction fields generalizing flags with
  | nil =>
    cases hread
    rfl
  | cons entry fields ih =>
    obtain ⟨name, value⟩ := entry
    rw [List.mapM_cons] at hread
    obtain ⟨flag, hflag, hread⟩ := except_bind_eq_ok.mp hread
    obtain ⟨rest, hrest, hread⟩ := except_bind_eq_ok.mp hread
    cases hread
    obtain ⟨on, hvalue, hflag⟩ := except_bind_eq_ok.mp hflag
    cases hflag
    cases value with
    | bool value =>
      cases hvalue
      have hfields := Json.object.inj (ih hrest)
      rw [hfields]
      rfl
    | _ => cases hvalue

/-- What a document of flags becomes, with these flags. -/
def completeFlags (transformers : List Transformer) (existing : Option Json) :
    Except DocumentFault (List (String × Bool) × Json) := do
  let found ← (flagsOf existing).mapError .mismatch
  return (fillFlags found transformers, flagsDocument (fillFlags found transformers))

/-! ## Settings -/

variable {α : Type} {format : SettingsFormat α} {start value : α} {s : Settings} {existing : Option Json}
  {document : Json}

/-- What a document of settings becomes. -/
def completeSettings (s : Settings) (existing : Option Json) : Except DocumentFault (Unit × Json) :=
  ((settle s existing).1.mapError .settings).map fun document => ((), document)

/-- Documents are objects, and they give the value back. -/
structure SettingsFormat.Faithful (format : SettingsFormat α) : Prop where
  object : ∀ value, ∃ fields, format.toDocument value = Json.ofFields fields
  ofDocument_toDocument : ∀ value, format.ofDocument (format.toDocument value) = .ok value

namespace SettingsFormat.Faithful

/-- The document of a value is an object whose fields are in order. -/
theorem exists_fields (h : format.Faithful) (value : α) :
    ∃ fields, format.toDocument value = .object fields ∧ Json.InOrder fields := by
  obtain ⟨entries, hentries⟩ := h.object value
  cases hdocument : Json.ofFields entries with
  | object fields => exact ⟨fields, hentries.trans hdocument, Json.inOrder_of_ofFields hdocument⟩
  | _ => cases hdocument

/-- A value's document brings the value into force. -/
theorem deserialize_toDocument (h : format.Faithful) (start value : α) :
    (Settings.typed format start).deserialize (format.toDocument value) = (.ok (), Settings.typed format value) := by
  obtain ⟨fields, hfields, -⟩ := h.exists_fields value
  have hread := h.ofDocument_toDocument value
  rw [hfields] at hread ⊢
  unfold Settings.deserialize Settings.typed
  dsimp only
  rw [hread]

/-- The document to start from is the one of the default. -/
theorem defaults_typed (h : format.Faithful) (start : α) :
    (Settings.typed format start).defaults = .ok (format.toDocument format.default) := by
  obtain ⟨fields, hfields, horder⟩ := h.exists_fields format.default
  unfold Settings.defaults Settings.typed
  dsimp only
  rw [hfields]
  exact congrArg Except.ok (Json.ofFields_of_inOrder horder)

end SettingsFormat.Faithful

/-- **Settings that have settled are a value, and the document is that value's.** -/
theorem settle_typed (hformat : format.Faithful) (h : settle (.typed format start) existing = (.ok document, s)) :
    ∃ value, s = .typed format value ∧ document = format.toDocument value := by
  unfold settle at h
  cases existing with
  | none =>
    rw [hformat.defaults_typed] at h
    dsimp only at h
    rw [hformat.deserialize_toDocument] at h
    cases h
    exact ⟨format.default, rfl, rfl⟩
  | some found =>
    cases found with
    | object fields =>
      cases hread : format.ofDocument (.object fields) with
      | error mismatch => simp [Settings.deserialize, Settings.typed, hread] at h
      | ok value =>
        simp only [Settings.deserialize, Settings.typed, hread] at h
        cases h
        exact ⟨value, rfl, rfl⟩
    | _ => cases h

/-- **Settings and their own document are at rest.** -/
theorem settle_again (hformat : format.Faithful) (value : α) :
    settle (.typed format value) (some (format.toDocument value)) =
      (.ok (format.toDocument value), .typed format value) := by
  unfold settle
  dsimp only
  rw [hformat.deserialize_toDocument]
  rfl

end ClassWeaver
