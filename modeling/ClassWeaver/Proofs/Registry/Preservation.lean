import ClassWeaver.Proofs.Json.RoundTrip
import ClassWeaver.Proofs.Registry.Loading
import Mathlib.Data.Prod.Basic

/-!
# User configuration

A document is completed before its file is touched. So a load has three outcomes: the document is at fault and everything is
as it was, the document lacks nothing and everything is as it was, or the file is written once, with all that was read from it
and with the defaults of what was missing. This is so for every syntax of documents to rely upon. What was written is what the
next load reads, unless there are numbers that are no integers: of these it depends on the syntax.

## Contents

* `Lacks`, `Completed`, `completed_of_update` — fields that were completed.
* `AtFault`, `Failed`, `loadDocument_eq_error` — loads that failed.
* `loading_keeps_documents` — switches, flags and settings.
* `loadSwitches_rounds` — a number that is not kept as it was spelled.
-/

namespace ClassWeaver

open FileTree
open Json (field? fillFields InOrder)

variable {t t' : FileTree} {p directory : Path} {defaults filled : List (String × Json)}
  {existing : Option (List (String × Json))} {transformers : List Transformer} {failure : RegistryFailure}

/-! ## Documents that lack something -/

/-- The document is absent, or a key is missing. -/
def Lacks (defaults : List (String × Json)) (existing : Option (List (String × Json))) : Prop :=
  existing = none ∨ ∃ entry ∈ defaults, field? entry.1 (existing.getD []) = none

/-- Fields that lack nothing are complete. -/
theorem fillFields_of_not_lacks (h : ¬Lacks defaults existing) :
    ∃ fields, existing = some fields ∧ fillFields fields defaults = fields := by
  obtain ⟨hthere, hall⟩ := not_or.mp h
  obtain ⟨fields, rfl⟩ := Option.ne_none_iff_exists'.mp hthere
  refine ⟨fields, rfl, Json.fillFields_of_isSome fun entry hentry => ?_⟩
  exact Option.isSome_iff_ne_none.mpr fun hnone => hall ⟨entry, hentry, hnone⟩

/-- Fields that lack something become others. -/
theorem fillFields_ne_of_lacks (h : Lacks defaults existing) :
    existing.map Json.object ≠ some (.object (fillFields (existing.getD []) defaults)) := by
  intro heq
  obtain rfl | ⟨entry, hentry, hnone⟩ := h
  · cases heq
  · obtain ⟨fields, rfl, hfields⟩ := Option.map_eq_some_iff.mp heq
    have hthere : (field? entry.1 (fillFields fields defaults)).isSome = true := Json.isSome_fillFields hentry
    rw [show fillFields fields defaults = fields from (Json.object.inj hfields).symm] at hthere
    rw [show field? entry.1 fields = none from hnone] at hthere
    cases hthere

/-! ## Fields of switches and flags -/

/-- Flags as fields of a document. -/
def flagFields (flags : List (String × Bool)) : List (String × Json) :=
  flags.map fun entry => (entry.1, .bool entry.2)

theorem formed_switchDefaults : Json.FormedFields (Json.maxDepth - 1) switchDefaults ∧
    Json.decimalsFields switchDefaults = [] := by
  have hoff : Json.Formed (Json.maxDepth - 1) switchOff :=
    ⟨by decide, List.pairwise_singleton _ _, trivial, trivial⟩
  exact ⟨⟨trivial, hoff, hoff, hoff, trivial⟩, rfl⟩

theorem formed_flagFields (flags : List (String × Bool)) (depth : Nat) :
    Json.FormedFields depth (flagFields flags) ∧ Json.decimalsFields (flagFields flags) = [] := by
  induction flags with
  | nil => exact ⟨trivial, rfl⟩
  | cons entry flags ih => exact ⟨⟨trivial, ih.1⟩, ih.2⟩

/-! ## Documents that are completed -/

section Loads

variable [DocumentSyntax]

/-- A load that succeeded, from the fields that were read from the file, if it was there, to the fields that it should hold. -/
structure Completed (p : Path) (defaults : List (String × Json)) (t : FileTree) (existing : Option (List (String × Json)))
    (filled : List (String × Json)) (t' : FileTree) : Prop where
  found : readDocument p t = (.ok (existing.map .object), t)
  /-- All fields are kept, and the missing ones are added. -/
  fields : ∀ key, field? key filled = (field? key (existing.getD [])).or (field? key defaults)
  /-- No key occurs twice. -/
  inOrder : InOrder filled
  untouched : ¬Lacks defaults existing → t' = t
  rewritten : Lacks defaults existing → existing.map Json.object ≠ some (.object filled) ∧
    writeDocument p (.object filled) t = (.ok (), t') ∧ t'.contentAt? (p.place t.workingDirectory) =
      some (.bytes (bytesOfText (documentText (.object filled))))
  /-- No other file is touched. -/
  spares : t.Spares (· = p.place t.workingDirectory) t'
  holds : (Json.object filled).ReadsBack → Holds t' p (.object filled)
  readsBack : Json.decimalsFields (existing.getD []) = [] → (Json.object filled).ReadsBack

/-- What a file holds is well formed. -/
theorem Holds.formed [LawfulDocumentSyntax] {document : Json} (h : Holds t p document) :
    Json.Formed Json.maxDepth document := by
  obtain ⟨place, bytes, -, hparsed⟩ := h
  obtain ⟨text, -, hparsed⟩ := Option.bind_eq_some_iff.mp hparsed
  exact LawfulDocumentSyntax.formed hparsed

/-- Fields that were read are in order, and well formed. -/
theorem formed_of_readDocument [LawfulDocumentSyntax] (h : readDocument p t = (.ok (existing.map .object), t)) :
    InOrder (existing.getD []) ∧ Json.FormedFields (Json.maxDepth - 1) (existing.getD []) := by
  cases existing with
  | none => exact ⟨List.Pairwise.nil, trivial⟩
  | some fields => exact (((readDocument_eq_ok h).2 (.object fields) rfl).formed).2

/-- **Filled fields are read back**, if their numbers are integers. -/
theorem readsBack_fillFields [LawfulDocumentSyntax] {fields : List (String × Json)} (horder : InOrder fields)
    (hfields : Json.FormedFields (Json.maxDepth - 1) fields) (hdefaults : Json.FormedFields (Json.maxDepth - 1) defaults)
    (hnone : Json.decimalsFields fields = []) (hnone' : Json.decimalsFields defaults = []) :
    (Json.object (fillFields fields defaults)).ReadsBack := by
  rw [Json.formedFields_iff] at hfields hdefaults
  rw [Json.decimalsFields_eq_nil_iff] at hnone hnone'
  -- every field that was filled is an old one or a default, and both kinds are fine
  have hformed : Json.FormedFields (Json.maxDepth - 1) (fillFields fields defaults) :=
    Json.formedFields_iff.mpr fun entry hentry =>
      (Json.mem_fillFields hentry).elim (hfields entry) (hdefaults entry)
  have hdecimals : Json.decimalsFields (fillFields fields defaults) = [] :=
    Json.decimalsFields_eq_nil_iff.mpr fun entry hentry =>
      (Json.mem_fillFields hentry).elim (hnone entry) (hnone' entry)
  exact LawfulDocumentSyntax.readsBack ⟨by decide, horder.fillFields defaults, hformed⟩ hdecimals

/-- **A document that was brought up to date is complete**, and it was written only if it lacked something. -/
theorem completed_of_update [LawfulDocumentSyntax] (hread : readDocument p t = (.ok (existing.map .object), t))
    (hdefaults : Json.FormedFields (Json.maxDepth - 1) defaults) (hnone : Json.decimalsFields defaults = [])
    (h : updateDocument p (existing.map .object) (.object (fillFields (existing.getD []) defaults)) t = (.ok (), t')) :
    Completed p defaults t existing (fillFields (existing.getD []) defaults) t' := by
  obtain ⟨horder, hfields⟩ := formed_of_readDocument hread
  obtain ⟨hspares, hholds⟩ := updateDocument_eq_ok hread h
  refine ⟨hread, fun key => Json.field?_fillFields, horder.fillFields defaults, ?_, ?_, hspares, ?_, ?_⟩
  · intro hlacks
    obtain ⟨fields, rfl, hsame⟩ := fillFields_of_not_lacks hlacks
    have hdocument : fillFields ((some fields).getD []) defaults = fields := hsame
    rw [hdocument] at h
    exact (congrArg Prod.snd (updateDocument_same.symm.trans h)).symm
  · intro hlacks
    have hother := fillFields_ne_of_lacks hlacks
    unfold updateDocument at h
    rw [if_neg hother] at h
    exact ⟨hother, h, contentAt?_eq_some_iff.mpr (node?_of_resolve (writeDocument_eq_ok h).2)⟩
  · exact fun hreads => hholds fun _ => hreads
  · exact fun hdecimals => readsBack_fillFields horder hfields hdefaults hdecimals hnone

/-! ## Switches and flags -/

/-- **Switches that were loaded** are those of the completed document. -/
theorem loadSwitches_completed [LawfulDocumentSyntax] {switches : Switches} (h : loadSwitches directory t = (.ok switches, t')) :
    ∃ existing filled, Completed (directory.join "environment.json") switchDefaults t existing filled t' ∧
      switches.IsIn filled := by
  obtain ⟨existing, fields, filled, hread, hfields, hfilled, hupdate⟩ := loadSwitches_eq_ok_iff.mp h
  obtain ⟨rfl, hswitches⟩ := fillSwitches_eq_ok_iff.mp hfilled
  obtain ⟨hformed, hnone⟩ := formed_switchDefaults
  obtain ⟨found, rfl, rfl⟩ : ∃ found : Option (List (String × Json)), existing = found.map .object ∧
      fields = found.getD [] := by
    unfold switchFields at hfields
    split at hfields
    · cases hfields
      exact ⟨none, rfl, rfl⟩
    · cases hfields
      exact ⟨some fields, rfl, rfl⟩
    · cases hfields
  exact ⟨found, _, completed_of_update hread hformed hnone hupdate, hswitches⟩

/-- **Flags that were loaded** are the completed document, and the file holds it. -/
theorem loadFlags_completed [LawfulDocumentSyntax] {flags : List (String × Bool)}
    (h : loadFlags directory transformers t = (.ok flags, t')) :
    (∃ existing, Completed (directory.join "transformers.json") (flagFields (flagDefaults transformers)) t existing
      (flagFields flags) t') ∧ Holds t' (directory.join "transformers.json") (flagsDocument flags) := by
  obtain ⟨existing, found, hread, hfound, rfl, hupdate⟩ := loadFlags_eq_ok_iff.mp h
  obtain ⟨hformed, hnone⟩ := formed_flagFields (flagDefaults transformers) (Json.maxDepth - 1)
  obtain ⟨was, rfl, hwas⟩ : ∃ was : Option (List (String × Json)), existing = was.map .object ∧
      was.getD [] = flagFields found := by
    cases existing with
    | none =>
      cases hfound
      exact ⟨none, rfl, rfl⟩
    | some document =>
      cases document with
      | object fields => exact ⟨some fields, rfl, Json.object.inj (flagsOf_object hfound)⟩
      | _ => cases hfound
  have hfilled : flagFields (fillFlags found transformers) =
      fillFields (was.getD []) (flagFields (flagDefaults transformers)) := by
    rw [hwas, fillFlags_eq]
    exact (Json.fillFields_map Json.bool).symm
  have hdocument : flagsDocument (fillFlags found transformers) = .object (flagFields (fillFlags found transformers)) := rfl
  rw [hdocument, hfilled] at hupdate ⊢
  have hcompleted := completed_of_update hread hformed hnone hupdate
  refine ⟨⟨was, hcompleted⟩, hcompleted.holds (hcompleted.readsBack ?_)⟩
  rw [hwas, (formed_flagFields found 0).2]

/-! ## Loads that fail -/

section Failure

variable {α : Type} {complete : Option Json → Except DocumentFault (α × Json)}

/-- The file does not hold a document, or it holds one that cannot be completed. -/
def AtFault (p : Path) (complete : Option Json → Except DocumentFault (α × Json)) (t : FileTree) : Prop :=
  ∀ existing a document, readDocument p t = (.ok existing, t) → complete existing ≠ .ok (a, document)

/-- A load that failed: the document is at fault, and then nothing was changed, or the completed document could not be
written. -/
def Failed (p : Path) (complete : Option Json → Except DocumentFault (α × Json)) (t : FileTree) (failure : RegistryFailure)
    (t' : FileTree) : Prop :=
  AtFault p complete t ∧ t' = t ∨
    (∃ existing a document, readDocument p t = (.ok existing, t) ∧ complete existing = .ok (a, document) ∧
      writeDocument p document t = (.error failure, t')) ∧ ∃ q fault, failure = .inaccessible q fault

/-- **A document at fault is left alone.** -/
theorem loadDocument_eq_error (h : loadDocument p complete t = (.error failure, t')) : Failed p complete t failure t' := by
  unfold loadDocument at h
  obtain hread | ⟨existing, u, hread, hbehind⟩ := Edits.bind_eq_error h
  · refine .inl ⟨fun existing a document hexisting => ?_, readDocument_eq_error hread⟩
    rw [hread] at hexisting
    cases hexisting
  obtain ⟨rfl, -⟩ := readDocument_eq_ok hread
  cases hcomplete : complete existing with
  | error fault =>
    rw [hcomplete] at hbehind
    cases hbehind
    refine .inl ⟨fun found a document hfound => ?_, rfl⟩
    rw [hread] at hfound
    cases hfound
    rw [hcomplete]
    exact nofun
  | ok completed =>
    obtain ⟨a, document⟩ := completed
    rw [hcomplete] at hbehind
    obtain hupdate | ⟨⟨⟩, v, -, hlast⟩ := Edits.bind_eq_error (m := updateDocument p existing document) hbehind
    · unfold updateDocument at hupdate
      split at hupdate
      · cases hupdate
      · exact .inr ⟨⟨existing, a, document, hread, hcomplete, hupdate⟩, writeDocument_eq_error hupdate⟩
    · cases hlast

/-- If a document is at fault, then nothing was changed. -/
theorem Failed.unchanged {q : Path} {fault : DocumentFault} (h : Failed p complete t (.document q fault) t') : t' = t := by
  rcases h with ⟨-, hsame⟩ | ⟨-, q, fault, hfailure⟩
  · exact hsame
  · cases hfailure

end Failure

/-- Settings are loaded as other documents are. -/
theorem loadSettings_eq {s s' : Settings} {result : Except RegistryFailure Unit}
    (h : loadSettings p s t = (result, s', t')) : loadDocument p (completeSettings s) t = (result, t') := by
  unfold loadSettings at h
  unfold loadDocument completeSettings
  rw [Edits.bind_eq]
  rcases hread : readDocument p t with ⟨failure | existing, u⟩
  · rw [hread] at h
    cases h
    rfl
  rw [hread] at h
  dsimp only at h ⊢
  rcases hsettle : settle s existing with ⟨failure | document, later⟩
  · rw [hsettle] at h
    cases h
    rfl
  rw [hsettle] at h
  dsimp only at h
  rcases hupdate : updateDocument p existing document u with ⟨done, v⟩
  rw [hupdate] at h
  cases h
  show (updateDocument p existing document >>= fun _ => pure ()) u = _
  rw [Edits.bind_eq, hupdate]
  cases result with
  | error failure => rfl
  | ok done => rfl

/-- Only settings fail to be loaded, and they fail as other documents do. -/
theorem Transformer.load_eq_error {transformer later : Transformer}
    (h : transformer.load directory t = (.error failure, later, t')) :
    ∃ s ∈ transformer.settings, Failed (settingsPath directory transformer) (completeSettings s) t failure t' := by
  unfold Transformer.load at h
  cases hsettings : transformer.settings with
  | none =>
    rw [hsettings] at h
    cases h
  | some s =>
    rw [hsettings] at h
    dsimp only at h
    rcases hload : loadSettings (settingsPath directory transformer) s t with ⟨result, s', u⟩
    rw [hload] at h
    cases h
    exact ⟨s, rfl, loadDocument_eq_error (loadSettings_eq hload)⟩

/-! ## All documents -/

/-- **No load loses what users have configured**, in any syntax to rely upon. Switches and flags that were loaded are those of
a document with all that was read from the file, each key with its value, and with the defaults of what was missing; the file
is written if it was absent or something was missing, and not otherwise. A load that fails because of its document changes
nothing, whether it is one of switches, of flags or of settings. -/
theorem loading_keeps_documents [LawfulDocumentSyntax] (directory : Path) (t : FileTree) :
    (∀ switches t', loadSwitches directory t = (.ok switches, t') →
      ∃ existing filled, Completed (directory.join "environment.json") switchDefaults t existing filled t' ∧
        switches.IsIn filled) ∧
    (∀ transformers flags t', loadFlags directory transformers t = (.ok flags, t') →
      (∃ existing, Completed (directory.join "transformers.json") (flagFields (flagDefaults transformers)) t existing
        (flagFields flags) t') ∧ Holds t' (directory.join "transformers.json") (flagsDocument flags)) ∧
    (∀ failure t', loadSwitches directory t = (.error failure, t') →
      Failed (directory.join "environment.json") completeSwitches t failure t') ∧
    (∀ transformers failure t', loadFlags directory transformers t = (.error failure, t') →
      Failed (directory.join "transformers.json") (completeFlags transformers) t failure t') ∧
    ∀ (transformer : Transformer) failure later t', transformer.load directory t = (.error failure, later, t') →
      ∃ s ∈ transformer.settings, Failed (settingsPath directory transformer) (completeSettings s) t failure t' := by
  refine ⟨fun _ _ => loadSwitches_completed, fun _ _ _ => loadFlags_completed, ?_, ?_,
    fun _ _ _ _ => Transformer.load_eq_error⟩
  · intro failure t' h
    rw [loadSwitches_eq] at h
    exact loadDocument_eq_error h
  · intro transformers failure t' h
    rw [loadFlags_eq] at h
    exact loadDocument_eq_error h

end Loads

/-! ## Users with documents of all kinds -/

/-- A tree with a document of switches, one of flags and one of settings. -/
def configured (switches flags settings : String) : FileTree where
  nodes := [(["config"], .directory), (["config", "graft"], .directory),
    (["config", "graft", "environment.json"], .file (.bytes (bytesOfText switches))),
    (["config", "graft", "transformers.json"], .file (.bytes (bytesOfText flags))),
    (["config", "graft", "plugins"], .directory), (["config", "graft", "plugins", "alpha"], .directory),
    (["config", "graft", "plugins", "alpha", "tuned.json"], .file (.bytes (bytesOfText settings)))]
  workingDirectory := []

/-- A user who asked for dumps and switched a transformer off. -/
def customized : FileTree :=
  configured "\x7b\"dump\":\x7b\"enabled\":true\x7d,\"note\":[1.5]\x7d" "\x7b\"alpha:tuned\":false\x7d" "\x7b\x7d"

/-- A user whose documents are all at fault, the first one in its last switch only. -/
def muddled : FileTree :=
  configured "\x7b\"disable_jar_copying\":\x7b\"enabled\":1\x7d\x7d" "\x7b\"alpha:tuned\":null\x7d" "[]"

theorem loading_keeps_documents_muddled :
    (∃ t' existing filled, loadSwitches ⟨"config/graft"⟩ customized = (.ok ⟨true, false, false⟩, t') ∧
      Completed (Path.join ⟨"config/graft"⟩ "environment.json") switchDefaults customized existing filled t') ∧
    (∃ t', loadFlags ⟨"config/graft"⟩ neighbourhood.transformers customized =
        (.ok [("alpha:tuned", false), ("beta:tuned", true)], t') ∧
      Holds t' (Path.join ⟨"config/graft"⟩ "transformers.json")
        (flagsDocument [("alpha:tuned", false), ("beta:tuned", true)])) ∧
    (∃ failure, loadSwitches ⟨"config/graft"⟩ muddled = (.error failure, muddled)) ∧
    (∃ failure, loadFlags ⟨"config/graft"⟩ neighbourhood.transformers muddled = (.error failure, muddled)) ∧
    ∃ failure later, (tunable "alpha" "tuned").load ⟨"config/graft"⟩ muddled = (.error failure, later, muddled) := by
  obtain ⟨hswitches, hflags, -, -, -⟩ := loading_keeps_documents ⟨"config/graft"⟩ customized
  obtain ⟨-, -, hswitches', hflags', hsettings'⟩ := loading_keeps_documents ⟨"config/graft"⟩ muddled
  have hload : loadSwitches ⟨"config/graft"⟩ customized = (.ok ⟨true, false, false⟩, _) :=
    Prod.fst_eq_iff.mp (by decide +kernel)
  have hload' : loadFlags ⟨"config/graft"⟩ neighbourhood.transformers customized =
      (.ok [("alpha:tuned", false), ("beta:tuned", true)], _) :=
    Prod.fst_eq_iff.mp (by decide +kernel)
  have hfault : loadSwitches ⟨"config/graft"⟩ muddled =
      (.error (.document ⟨"config/graft/environment.json"⟩ (.switchNotBoolean "disable_jar_copying")), _) :=
    Prod.fst_eq_iff.mp (by decide +kernel)
  have hfault' : loadFlags ⟨"config/graft"⟩ neighbourhood.transformers muddled =
      (.error (.document ⟨"config/graft/transformers.json"⟩ (.mismatch (.invalidType "null" "a boolean"))), _) :=
    Prod.fst_eq_iff.mp (by decide +kernel)
  have hfault'' : (tunable "alpha" "tuned").load ⟨"config/graft"⟩ muddled =
      (.error (.document ⟨"config/graft/plugins/alpha/tuned.json"⟩ (.settings .notAnObject)), _) :=
    Prod.fst_eq_iff.mp (by decide +kernel)
  obtain ⟨existing, filled, hcompleted, -⟩ := hswitches _ _ hload
  obtain ⟨s, -, hfailed⟩ := hsettings' _ _ _ _ hfault''
  have hsame := (hswitches' _ _ hfault).unchanged
  have hsame' := (hflags' _ _ _ hfault').unchanged
  have hsame'' := hfailed.unchanged
  rw [hsame] at hfault
  rw [hsame'] at hfault'
  rw [hsame''] at hfault''
  exact ⟨⟨_, existing, filled, hload, hcompleted⟩, ⟨_, hload', (hflags _ _ _ hload').2⟩, ⟨_, hfault⟩, ⟨_, hfault'⟩,
    _, _, hfault''⟩

/-! ## A number that is rounded -/

/-- The number that a decimal stands for. -/
def Decimal.value (d : Decimal) : Rat :=
  (if d.negative then -1 else 1) * d.digits * (10 : Rat) ^ d.exponent

/-- A number with more digits than a double tells apart: 0.99999999999999994. -/
def finelyWritten : Decimal :=
  ⟨false, 99999999999999994, -17⟩

/-- A tree whose document of switches holds that number. -/
def measured : FileTree :=
  configured ("\x7b\"k0\": " ++ finelyWritten.toDocument ++ "\x7d") "\x7b\x7d" "\x7b\x7d"

/-- **A number that is no 64-bit integer is kept as a double**: what is written back is another number. -/
theorem loadSwitches_rounds : ∃ t' filled kept, loadSwitches ⟨"config/graft"⟩ measured = (.ok ⟨false, false, false⟩, t') ∧
    t'.contentAt? ["config", "graft", "environment.json"] = some (.bytes (bytesOfText (documentText (.object filled)))) ∧
      field? "k0" filled = some (.decimal kept) ∧ kept.value ≠ finelyWritten.value := by
  have hload : loadSwitches ⟨"config/graft"⟩ measured = (.ok ⟨false, false, false⟩, _) :=
    Prod.fst_eq_iff.mp (by decide +kernel)
  have hread : readDocument (Path.join ⟨"config/graft"⟩ "environment.json") measured =
      (.ok (some (.object [("k0", .decimal ⟨false, 1, 0⟩)])), _) :=
    Prod.fst_eq_iff.mp (by decide +kernel)
  obtain ⟨existing, filled, hcompleted, -⟩ := loadSwitches_completed hload
  have hfound := Except.ok.inj (congrArg Prod.fst (hcompleted.found.symm.trans hread))
  obtain ⟨fields, rfl, hfields⟩ := Option.map_eq_some_iff.mp hfound
  obtain rfl := Json.object.inj hfields
  obtain ⟨-, -, hcontent⟩ := hcompleted.rewritten (.inr ⟨("dump", switchOff), by decide, by decide⟩)
  refine ⟨_, filled, ⟨false, 1, 0⟩, hload, hcontent, ?_, by decide +kernel⟩
  rw [hcompleted.fields]
  decide

end ClassWeaver
