import ClassWeaver.Proofs.Registry.Documents
import ClassWeaver.Proofs.Registry.Filling
import ClassWeaver.Proofs.Registry.SettingsPaths

/-!
# Loading twice

After the configuration was loaded, the switches, the flags and the settings are all at rest: each document is in its file,
and filling it changes neither the document nor what is in force. A document is left at rest by the step that loads it, and
no later step touches its file, because all documents are in different files. So loading again finds what it would write.

## Contents

* `AtRest` — settings and the file of their document, in agreement.
* `loadSettings_eq_ok`, `loadAllSettings_eq_ok` — settings that were loaded, of one transformer and of all.
* `Blackboard.SharedAtRest`, `loadShared_eq_ok` — switches and flags that were loaded.
* `loadConfig_again` — the whole configuration.
-/

namespace ClassWeaver

open FileTree
open ClassWeaver.Path (IsEntryName)

variable {t t' u : FileTree} {p directory root : Path} {s s' : Settings} {b b' : Blackboard} {config : EngineConfig}
  {transformer transformer' : Transformer} {transformers transformers' : List Transformer}

/-! ## Directories -/

/-- Directories that were made are made no more. -/
theorem forM_makeDirectories {paths : List Path}
    (h : (paths.forM fun p => Loading.onFiles p (FileAction.makeDirectories p)) t = (.ok (), t')) :
    t.Spares (fun _ => False) t' ∧ ∀ u, t'.Grows u →
      (paths.forM fun p => Loading.onFiles p (FileAction.makeDirectories p)) u = (.ok (), u) := by
  induction paths generalizing t with
  | nil =>
    obtain rfl := Edits.forM_nil_eq_ok.mp h
    exact ⟨.refl t, fun u _ => Edits.forM_nil_eq_ok.mpr rfl⟩
  | cons p paths ih =>
    obtain ⟨v, hfirst, hrest⟩ := Edits.forM_cons_eq_ok.mp h
    obtain ⟨hspares, hagain⟩ := FileAction.makeDirectories_eq_ok (Loading.onFiles_eq_ok.mp hfirst)
    obtain ⟨hspares', hagain'⟩ := ih hrest
    refine ⟨hspares.of_spares hspares', fun u hu => Edits.forM_cons_eq_ok.mpr ⟨u, ?_, hagain' u hu⟩⟩
    exact Loading.onFiles_eq_ok.mpr (hagain u (hspares'.toGrows.of_grows hu))

/-- **The directories of the documents** are made once, and making them touches no file. -/
theorem makeConfigDirectories_eq_ok (h : b.makeConfigDirectories directory t = (.ok (), t')) :
    t.Spares (fun _ => False) t' ∧ ∀ u, t'.Grows u → b.makeConfigDirectories directory u = (.ok (), u) := by
  have hall (u u' : FileTree) : b.makeConfigDirectories directory u = (.ok (), u') ↔
      ((directory :: (b.plugins.filter fun d => !d.plugin.transformers.isEmpty).map fun d =>
        settingsDirectory directory d.id).forM fun p => Loading.onFiles p (FileAction.makeDirectories p)) u = (.ok (), u') := by
    rw [Edits.forM_cons_eq_ok, Edits.forM_map]
    unfold Blackboard.makeConfigDirectories
    rw [Edits.bind_eq_ok]
    constructor
    · rintro ⟨⟨⟩, v, hfirst, hrest⟩
      exact ⟨v, hfirst, hrest⟩
    · rintro ⟨v, hfirst, hrest⟩
      exact ⟨(), v, hfirst, hrest⟩
  obtain ⟨hspares, hagain⟩ := forM_makeDirectories ((hall t t').mp h)
  exact ⟨hspares, fun u hu => (hall u u).mpr (hagain u hu)⟩

/-! ## Switches and flags -/

/-- Steps that only compute can be taken together. -/
theorem Loading.ofResult_bind {α β : Type} (p : Path) (result : Except DocumentFault α)
    (f : α → Except DocumentFault β) :
    Loading.ofResult p (result >>= f) = Loading.ofResult p result >>= fun a => Loading.ofResult p (f a) := by
  cases result with
  | error fault => rfl
  | ok a => rfl

section Loads

variable [DocumentSyntax]

theorem loadSwitches_eq (directory : Path) :
    loadSwitches directory = loadDocument (directory.join "environment.json") completeSwitches := by
  unfold loadSwitches loadDocument completeSwitches
  simp only [Loading.ofResult_bind, bind_assoc]
  rfl

theorem loadFlags_eq (directory : Path) (transformers : List Transformer) : loadFlags directory transformers =
    loadDocument (directory.join "transformers.json") (completeFlags transformers) := by
  unfold loadFlags loadDocument completeFlags
  simp only [Loading.ofResult_bind, bind_assoc]
  rfl

theorem loadSwitches_eq_ok_iff {switches : Switches} : loadSwitches directory t = (.ok switches, t') ↔
    ∃ existing fields filled, readDocument (directory.join "environment.json") t = (.ok existing, t) ∧
      switchFields existing = .ok fields ∧ fillSwitches fields = .ok (switches, filled) ∧
        updateDocument (directory.join "environment.json") existing (.object filled) t = (.ok (), t') := by
  rw [loadSwitches_eq, loadDocument_eq_ok_iff]
  constructor
  · rintro ⟨existing, document, hread, hcomplete, hupdate⟩
    obtain ⟨fields, hfields, hcomplete⟩ := except_bind_eq_ok.mp hcomplete
    obtain ⟨⟨found, filled⟩, hfilled, hcomplete⟩ := except_bind_eq_ok.mp hcomplete
    cases hcomplete
    exact ⟨existing, fields, filled, hread, hfields, hfilled, hupdate⟩
  · rintro ⟨existing, fields, filled, hread, hfields, hfilled, hupdate⟩
    refine ⟨existing, .object filled, hread, ?_, hupdate⟩
    exact except_bind_eq_ok.mpr ⟨fields, hfields, except_bind_eq_ok.mpr ⟨(switches, filled), hfilled, rfl⟩⟩

/-- Switches whose document lacks nothing are loaded without a change. -/
theorem loadSwitches_again {switches : Switches} {filled : List (String × Json)}
    (h : Holds t (directory.join "environment.json") (.object filled)) (hfilled : fillSwitches filled = .ok (switches, filled)) :
    loadSwitches directory t = (.ok switches, t) :=
  loadSwitches_eq_ok_iff.mpr ⟨_, filled, filled, h.readDocument, rfl, hfilled, updateDocument_same⟩

theorem loadFlags_eq_ok_iff {flags : List (String × Bool)} : loadFlags directory transformers t = (.ok flags, t') ↔
    ∃ existing found, readDocument (directory.join "transformers.json") t = (.ok existing, t) ∧
      flagsOf existing = .ok found ∧ fillFlags found transformers = flags ∧
        updateDocument (directory.join "transformers.json") existing (flagsDocument flags) t = (.ok (), t') := by
  rw [loadFlags_eq, loadDocument_eq_ok_iff]
  constructor
  · rintro ⟨existing, document, hread, hcomplete, hupdate⟩
    obtain ⟨found, hfound, hcomplete⟩ := except_bind_eq_ok.mp hcomplete
    cases hcomplete
    exact ⟨existing, found, hread, except_mapError_eq_ok.mp hfound, rfl, hupdate⟩
  · rintro ⟨existing, found, hread, hfound, rfl, hupdate⟩
    refine ⟨existing, _, hread, ?_, hupdate⟩
    exact except_bind_eq_ok.mpr ⟨found, except_mapError_eq_ok.mpr hfound, rfl⟩

/-- Flags whose document lacks nothing are loaded without a change. -/
theorem loadFlags_again {flags : List (String × Bool)} (h : Holds t (directory.join "transformers.json") (flagsDocument flags))
    (hfilled : fillFlags flags transformers = flags) : loadFlags directory transformers t = (.ok flags, t) :=
  loadFlags_eq_ok_iff.mpr ⟨_, flags, h.readDocument, flagsOf_flagsDocument flags, hfilled, updateDocument_same⟩

/-! ## Settings -/

/-- Settings of a type whose documents give the value back and survive being printed. -/
def Settings.IsTyped (s : Settings) : Prop :=
  ∃ (α : Type) (format : SettingsFormat α) (value : α), format.Faithful ∧
    (∀ v, (format.toDocument v).ReadsBack) ∧ s = .typed format value

/-- Settings are in agreement with a file: it holds their document, which brings about the same settings and needs no
change. -/
def AtRest (t : FileTree) (p : Path) (s : Settings) : Prop :=
  ∃ document, s.serialize = .ok document ∧ Holds t p document ∧ settle s (some document) = (.ok document, s)

theorem AtRest.of_spares {touched : Location → Prop} (h : AtRest t p s) (hspares : t.Spares touched t')
    (hp : ¬touched (p.place t.workingDirectory)) : AtRest t' p s := by
  obtain ⟨document, hserialize, hholds, hsettle⟩ := h
  exact ⟨document, hserialize, hholds.of_spares hspares hp, hsettle⟩

/-- **Settings that were loaded are at rest**, and no other file was touched. -/
theorem loadSettings_eq_ok (h : loadSettings p s t = (.ok (), s', t')) (hs : s.IsTyped) :
    t.Spares (· = p.place t.workingDirectory) t' ∧ AtRest t' p s' := by
  obtain ⟨α, format, value, hformat, hreads, rfl⟩ := hs
  unfold loadSettings at h
  rcases hread : readDocument p t with ⟨failure | existing, u⟩
  · rw [hread] at h
    cases h
  · rw [hread] at h
    obtain ⟨rfl, -⟩ := readDocument_eq_ok hread
    dsimp only at h
    rcases hsettle : settle (.typed format value) existing with ⟨failure | document, settled⟩
    · rw [hsettle] at h
      cases h
    · rw [hsettle] at h
      obtain ⟨later, rfl, rfl⟩ := settle_typed hformat hsettle
      rcases hupdate : updateDocument p existing (format.toDocument later) u with ⟨result, v⟩
      dsimp only at h
      rw [hupdate] at h
      cases h
      obtain ⟨hspares, hholds⟩ := updateDocument_eq_ok hread hupdate
      exact ⟨hspares, _, rfl, hholds fun _ => hreads later, settle_again hformat later⟩

/-- Settings at rest are loaded without a change. -/
theorem loadSettings_of_atRest (h : AtRest t p s) : loadSettings p s t = (.ok (), s, t) := by
  obtain ⟨document, -, hholds, hsettle⟩ := h
  unfold loadSettings
  rw [hholds.readDocument]
  dsimp only
  rw [hsettle]
  dsimp only
  rw [updateDocument_same]

/-- The settings of a transformer, if it has some, are at rest. -/
def Transformer.AtRest (t : FileTree) (directory : Path) (transformer : Transformer) : Prop :=
  ∀ s ∈ transformer.settings, ClassWeaver.AtRest t (settingsPath directory transformer) s

theorem Transformer.load_eq_ok (h : transformer.load directory t = (.ok (), transformer', t'))
    (htyped : ∀ s ∈ transformer.settings, s.IsTyped) :
    transformer'.data = transformer.data ∧
      t.Spares (· = (settingsPath directory transformer).place t.workingDirectory) t' ∧ transformer'.AtRest t' directory := by
  unfold Transformer.load at h
  cases hsettings : transformer.settings with
  | none =>
    rw [hsettings] at h
    cases h
    refine ⟨rfl, .refl t, ?_⟩
    unfold Transformer.AtRest
    rw [hsettings]
    exact nofun
  | some s =>
    rcases hload : loadSettings (settingsPath directory transformer) s t with ⟨result, s', u⟩
    rw [hsettings] at h
    dsimp only at h
    rw [hload] at h
    cases h
    obtain ⟨hspares, hrest⟩ := loadSettings_eq_ok hload (htyped s hsettings)
    refine ⟨rfl, hspares, ?_⟩
    intro later hlater
    cases hlater
    exact hrest

theorem Transformer.load_of_atRest (h : transformer.AtRest t directory) :
    transformer.load directory t = (.ok (), transformer, t) := by
  unfold Transformer.load
  cases hsettings : transformer.settings with
  | none => rfl
  | some s =>
    dsimp only
    rw [loadSettings_of_atRest (h s hsettings)]
    dsimp only
    rw [← hsettings]

omit [DocumentSyntax] in
/-- A transformer's place of settings is told by its data. -/
theorem settingsPath_congr (h : transformer'.data = transformer.data) :
    settingsPath directory transformer' = settingsPath directory transformer := by
  unfold settingsPath
  rw [h]

/-- **The settings of all transformers are at rest after they were loaded**, if their files are different: the transformers
are the same but for their settings, and no other file was touched. -/
theorem loadAllSettings_eq_ok (h : loadAllSettings directory transformers t = (.ok (), transformers', t'))
    (htyped : ∀ transformer ∈ transformers, ∀ s ∈ transformer.settings, s.IsTyped)
    (hapart : transformers.Pairwise fun a b =>
      (settingsPath directory a).place t.workingDirectory ≠ (settingsPath directory b).place t.workingDirectory) :
    transformers'.map Transformer.data = transformers.map Transformer.data ∧
      t.Spares (fun place => ∃ a ∈ transformers, place = (settingsPath directory a).place t.workingDirectory) t' ∧
        ∀ transformer ∈ transformers', transformer.AtRest t' directory := by
  induction transformers generalizing t transformers' with
  | nil =>
    cases h
    exact ⟨rfl, .refl _, nofun⟩
  | cons transformer transformers ih =>
    obtain ⟨hfirst, hothers⟩ := List.pairwise_cons.mp hapart
    obtain ⟨htypedFirst, htypedOthers⟩ := List.forall_mem_cons.mp htyped
    unfold loadAllSettings at h
    rcases hload : transformer.load directory t with ⟨failure | ⟨⟩, later, u⟩
    · rw [hload] at h
      cases h
    · rw [hload] at h
      dsimp only at h
      rcases hrest : loadAllSettings directory transformers u with ⟨result, rest, v⟩
      rw [hrest] at h
      cases h
      obtain ⟨hdata, hspares, hatRest⟩ := Transformer.load_eq_ok hload htypedFirst
      -- places are told from the working directory, which no step changes
      rw [← hspares.workingDirectory] at hothers
      obtain ⟨hdata', hspares', hatRest'⟩ := ih hrest htypedOthers hothers
      rw [hspares.workingDirectory] at hspares'
      refine ⟨by rw [List.map_cons, List.map_cons, hdata, hdata'], ?_, List.forall_mem_cons.mpr ⟨?_, hatRest'⟩⟩
      · refine (hspares.mono ?_).of_spares (hspares'.mono ?_)
        · exact fun place hplace => ⟨transformer, List.mem_cons_self, hplace⟩
        · exact fun place ⟨a, ha, hplace⟩ => ⟨a, List.mem_cons_of_mem _ ha, hplace⟩
      · -- the files of the others are different, so this one is left alone from here on
        intro s hs
        refine (hatRest s hs).of_spares hspares' ?_
        rw [settingsPath_congr hdata, hspares.workingDirectory]
        exact fun ⟨a, ha, hplace⟩ => hfirst a ha hplace

theorem loadAllSettings_of_atRest (h : ∀ transformer ∈ transformers, transformer.AtRest t directory) :
    loadAllSettings directory transformers t = (.ok (), transformers, t) := by
  induction transformers with
  | nil => rfl
  | cons transformer transformers ih =>
    obtain ⟨hfirst, hothers⟩ := List.forall_mem_cons.mp h
    unfold loadAllSettings
    rw [Transformer.load_of_atRest hfirst]
    dsimp only
    rw [ih hothers]

/-! ## All of the configuration -/

/-- The document of switches that loading writes, unless it lacks nothing as it is. -/
def Blackboard.writtenSwitches? (b : Blackboard) (root : Path) (t : FileTree) : Option Json :=
  match b.makeConfigDirectories (root.join configDirectory) t with
  | (.error _, _) => none
  | (.ok (), t) =>
    match readDocument ((root.join configDirectory).join "environment.json") t with
    | (.error _, _) => none
    | (.ok existing, _) =>
      match switchFields existing >>= fillSwitches with
      | .error _ => none
      | .ok (_, filled) => if existing = some (.object filled) then none else some (.object filled)

theorem Blackboard.writtenSwitches?_eq {existing : Option Json} {fields filled : List (String × Json)} {switches : Switches}
    (hmade : b.makeConfigDirectories (root.join configDirectory) t = (.ok (), u))
    (hread : readDocument ((root.join configDirectory).join "environment.json") u = (.ok existing, u))
    (hfields : switchFields existing = .ok fields) (hfilled : fillSwitches fields = .ok (switches, filled))
    (hnew : existing ≠ some (.object filled)) : b.writtenSwitches? root t = some (.object filled) := by
  unfold Blackboard.writtenSwitches?
  rw [hmade]
  dsimp only
  rw [hread]
  dsimp only
  rw [except_bind_eq_ok.mpr ⟨fields, hfields, hfilled⟩]
  dsimp only
  rw [if_neg hnew]

theorem loadShared_eq_ok_iff : b.loadShared root t = (.ok config, t') ↔
    ∃ switches flags u v, b.makeConfigDirectories (root.join configDirectory) t = (.ok (), u) ∧
      loadSwitches (root.join configDirectory) u = (.ok switches, v) ∧
        loadFlags (root.join configDirectory) b.transformers v = (.ok flags, t') ∧
          config = ⟨switches, flags, root.join dumpDirectory⟩ := by
  unfold Blackboard.loadShared
  constructor
  · intro h
    obtain ⟨⟨⟩, u, hmade, hbehind⟩ := Edits.bind_eq_ok.mp h
    obtain ⟨switches, v, hswitches, hbehind⟩ := Edits.bind_eq_ok.mp hbehind
    obtain ⟨flags, w, hflags, hbehind⟩ := Edits.bind_eq_ok.mp hbehind
    obtain ⟨rfl, rfl⟩ := Edits.pure_eq_ok.mp hbehind
    exact ⟨switches, flags, u, v, hmade, hswitches, hflags, rfl⟩
  · rintro ⟨switches, flags, u, v, hmade, hswitches, hflags, rfl⟩
    refine Edits.bind_eq_ok.mpr ⟨(), u, hmade, Edits.bind_eq_ok.mpr ⟨switches, v, hswitches, ?_⟩⟩
    exact Edits.bind_eq_ok.mpr ⟨flags, t', hflags, rfl⟩

/-- The documents of switches and flags are in their files, and they and the configuration are in agreement. -/
structure Blackboard.SharedAtRest (b : Blackboard) (root : Path) (config : EngineConfig) (t : FileTree) : Prop where
  directories : ∀ u, t.Grows u → b.makeConfigDirectories (root.join configDirectory) u = (.ok (), u)
  switches : ∃ filled, Holds t ((root.join configDirectory).join "environment.json") (.object filled) ∧
    fillSwitches filled = .ok (config.switches, filled)
  flags : Holds t ((root.join configDirectory).join "transformers.json") (flagsDocument config.flags)
  complete : fillFlags config.flags b.transformers = config.flags
  dumpRoot : config.dumpRoot = root.join dumpDirectory

namespace Blackboard.SharedAtRest

theorem of_spares {touched : Location → Prop} (h : b.SharedAtRest root config t) (hspares : t.Spares touched t')
    (hswitches : ¬touched (((root.join configDirectory).join "environment.json").place t.workingDirectory))
    (hflags : ¬touched (((root.join configDirectory).join "transformers.json").place t.workingDirectory)) :
    b.SharedAtRest root config t' where
  directories u hu := h.directories u (hspares.toGrows.of_grows hu)
  switches := by
    obtain ⟨filled, hholds, hfilled⟩ := h.switches
    exact ⟨filled, hholds.of_spares hspares hswitches, hfilled⟩
  flags := h.flags.of_spares hspares hflags
  complete := h.complete
  dumpRoot := h.dumpRoot

/-- What transformers do, and their settings, do not matter. -/
theorem withTransformers (h : b.SharedAtRest root config t)
    (hdata : transformers.map Transformer.data = b.transformers.map Transformer.data) :
    ({ b with transformers } : Blackboard).SharedAtRest root config t where
  directories := h.directories
  switches := h.switches
  flags := h.flags
  complete := (fillFlags_congr hdata).trans h.complete
  dumpRoot := h.dumpRoot

/-- Documents at rest are loaded without a change. -/
theorem loadShared (h : b.SharedAtRest root config t) : b.loadShared root t = (.ok config, t) := by
  obtain ⟨filled, hholds, hfilled⟩ := h.switches
  refine loadShared_eq_ok_iff.mpr ⟨config.switches, config.flags, t, t, h.directories t (.refl t), ?_, ?_, ?_⟩
  · exact loadSwitches_again hholds hfilled
  · exact loadFlags_again h.flags h.complete
  · rw [← h.dumpRoot]

end Blackboard.SharedAtRest

/-- **Shared documents that were loaded are at rest**, if they are read back, and in any case no other file was touched. -/
theorem loadShared_eq_ok (h : b.loadShared root t = (.ok config, t')) :
    t.Spares (fun place =>
        place = ((root.join configDirectory).join "environment.json").place t.workingDirectory ∨
          place = ((root.join configDirectory).join "transformers.json").place t.workingDirectory) t' ∧
      ((∀ document ∈ b.writtenSwitches? root t, document.ReadsBack) → (flagsDocument config.flags).ReadsBack →
        b.SharedAtRest root config t') := by
  obtain ⟨switches, flags, v, w, hmade, hloaded, hloaded', rfl⟩ := loadShared_eq_ok_iff.mp h
  obtain ⟨existing, fields, filled, hread, hfields, hfilled, hupdate⟩ := loadSwitches_eq_ok_iff.mp hloaded
  obtain ⟨existing', found, hread', hfound, hcomplete, hupdate'⟩ := loadFlags_eq_ok_iff.mp hloaded'
  obtain ⟨hspares, hagain⟩ := makeConfigDirectories_eq_ok hmade
  obtain ⟨hspares', hholds⟩ := updateDocument_eq_ok hread hupdate
  obtain ⟨hspares'', hholds'⟩ := updateDocument_eq_ok hread' hupdate'
  have hworking : w.workingDirectory = t.workingDirectory := hspares'.workingDirectory.trans hspares.workingDirectory
  refine ⟨?_, fun hswitches hflags => ⟨fun u hu => ?_, ⟨filled, ?_, fillSwitches_again hfilled⟩, ?_, ?_, rfl⟩⟩
  · rw [hspares.workingDirectory] at hspares'
    rw [hworking] at hspares''
    refine ((hspares.mono fun _ => False.elim).of_spares (hspares'.mono ?_)).of_spares (hspares''.mono ?_)
    · exact fun place => .inl
    · exact fun place => .inr
  · exact hagain u ((hspares'.toGrows.of_grows hspares''.toGrows).of_grows hu)
  · -- the flags are in another file than the switches
    have hthere := hholds fun hnew => hswitches _ (Blackboard.writtenSwitches?_eq hmade hread hfields hfilled hnew)
    exact hthere.of_spares hspares'' (Path.place_join_ne (by decide) (by decide) (by decide))
  · exact hholds' fun _ => hflags
  · dsimp only
    rw [← hcomplete]
    exact fillFlags_again

/-- **Loading the configuration twice is loading it once.** Whatever the documents held before, after a load that succeeds
the file of each transformer's settings holds the document of the live settings, and a second load succeeds with the same
switches and flags, with the same settings in force, and without a change of any file. This is so for accepted plugins
whose transformers have names without slashes and settings of a type each, however documents are read and printed, as far as
those that are written survive it. -/
theorem loadConfig_again (hb : b.Accepted)
    (hnames : ∀ transformer ∈ b.transformers, transformer.data.Checked ∧ transformer.hasPlainName = true)
    (htyped : ∀ transformer ∈ b.transformers, ∀ s ∈ transformer.settings, s.IsTyped)
    (hswitches : ∀ document ∈ b.writtenSwitches? root t, document.ReadsBack)
    (hflags : (flagsDocument config.flags).ReadsBack) (h : b.loadConfig root t = (.ok config, b', t')) :
    (∀ transformer ∈ b'.transformers, ∀ s ∈ transformer.settings, ∃ document, s.serialize = .ok document ∧
        readDocument (settingsPath (root.join configDirectory) transformer) t' = (.ok (some document), t')) ∧
      b'.loadConfig root t' = (.ok config, b', t') := by
  have hkept : KeptApart root t.workingDirectory b.transformers := by
    have hkept := (keptApart_of_accepted hb (fun a ha => (hnames a ha).1) root t.workingDirectory).1
    rw [List.filter_eq_self.mpr fun a ha => (hnames a ha).2] at hkept
    exact hkept
  unfold Blackboard.loadConfig at h
  rcases hshared : b.loadShared root t with ⟨failure | found, u⟩
  · rw [hshared] at h
    cases h
  · rw [hshared] at h
    dsimp only at h
    rcases hall : loadAllSettings (root.join configDirectory) b.transformers u with ⟨failure | ⟨⟩, transformers, v⟩
    · rw [hall] at h
      cases h
    · rw [hall] at h
      cases h
      obtain ⟨hsparesShared, hatRest⟩ := loadShared_eq_ok hshared
      have hworking := hsparesShared.workingDirectory
      have hapart := hkept.apart
      rw [← hworking] at hapart
      obtain ⟨hdata, hspares, hrest⟩ := loadAllSettings_eq_ok hall htyped hapart
      refine ⟨fun a ha s hs => ?_, ?_⟩
      · obtain ⟨document, hserialize, hholds, -⟩ := hrest a ha s hs
        exact ⟨document, hserialize, hholds.readDocument⟩
      · -- no settings are in the shared documents, so these are still at rest
        have hlater := (hatRest hswitches hflags).of_spares hspares
          (fun ⟨a, ha, hplace⟩ => hkept.notSwitches a ha (hworking ▸ hplace.symm))
          (fun ⟨a, ha, hplace⟩ => hkept.notFlags a ha (hworking ▸ hplace.symm))
        unfold Blackboard.loadConfig
        rw [(hlater.withTransformers hdata).loadShared]
        dsimp only
        rw [loadAllSettings_of_atRest hrest]
        rfl

end Loads

/-! ## A user who asked for dumps -/

/-- The two plugins with transformers of one name, accepted. -/
def neighbourhood : Blackboard where
  plugins := neighbours
  transformers := [tunable "alpha" "tuned", tunable "beta" "tuned"]
  environment := .new ["alpha", "beta"] (.static ⟨"r"⟩ [])

/-- A root in which one switch was set, and no other document exists. -/
def askedToDump : FileTree where
  nodes := [(["r"], .directory), (["r", "config"], .directory), (["r", "config", "graft"], .directory),
    (["r", "config", "graft", "environment.json"],
      .file (.bytes (bytesOfText "\x7b\"_comment\":1,\"dump\":\x7b\"enabled\":true\x7d\x7d")))]
  workingDirectory := []

/-- The configuration of that root. -/
def dumpingConfig : EngineConfig :=
  ⟨⟨true, false, false⟩, [("alpha:tuned", true), ("beta:tuned", true)], ⟨"r/.graft/dump"⟩⟩

theorem strictFormat_isTyped (strict : Bool) : (Settings.typed strictFormat strict).IsTyped := by
  refine ⟨Bool, strictFormat, strict, ⟨fun value => ⟨[("strict", .bool value)], rfl⟩, fun value => ?_⟩, fun v => ?_, rfl⟩
  · cases value
    · rfl
    · rfl
  · unfold Json.ReadsBack
    cases v
    · decide +kernel
    · decide +kernel

theorem loadConfig_again_neighbourhood : ∃ b' t', neighbourhood.loadConfig ⟨"r"⟩ askedToDump = (.ok dumpingConfig, b', t') ∧
    b'.loadConfig ⟨"r"⟩ t' = (.ok dumpingConfig, b', t') := by
  have hb : neighbourhood.Accepted := ⟨neighbours, .static ⟨"r"⟩ [], rfl⟩
  have hresult : (neighbourhood.loadConfig ⟨"r"⟩ askedToDump).1 = .ok dumpingConfig := by decide +kernel
  have hswitches : ∀ document ∈ neighbourhood.writtenSwitches? ⟨"r"⟩ askedToDump, document.ReadsBack := by
    unfold Json.ReadsBack
    decide +kernel
  have hflags : (flagsDocument dumpingConfig.flags).ReadsBack := by
    unfold Json.ReadsBack
    decide +kernel
  have hnames : ∀ a ∈ neighbourhood.transformers, a.data.Checked ∧ a.hasPlainName = true :=
    List.forall_mem_cons.mpr ⟨⟨rfl, rfl⟩, List.forall_mem_singleton.mpr ⟨rfl, rfl⟩⟩
  have htyped : ∀ a ∈ neighbourhood.transformers, ∀ s ∈ a.settings, s.IsTyped := by
    refine List.forall_mem_cons.mpr ⟨?_, List.forall_mem_singleton.mpr ?_⟩
    · rintro s ⟨⟩
      exact strictFormat_isTyped true
    · rintro s ⟨⟩
      exact strictFormat_isTyped true
  rcases hload : neighbourhood.loadConfig ⟨"r"⟩ askedToDump with ⟨result, b', t'⟩
  obtain rfl : result = .ok dumpingConfig := by
    rw [hload] at hresult
    exact hresult
  exact ⟨b', t', rfl, (loadConfig_again hb hnames htyped hswitches hflags hload).2⟩

end ClassWeaver
