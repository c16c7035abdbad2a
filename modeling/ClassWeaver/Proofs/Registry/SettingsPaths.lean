import ClassWeaver.Proofs.Files.Paths
import ClassWeaver.Proofs.Identity.Metadata
import ClassWeaver.Proofs.Registry.Acceptance
import ClassWeaver.Registry.Configuration

/-!
# Where settings are kept

The settings of a transformer are in a file that is named after it, in a directory that is named after its plugin. Ids of
plugins are names that files can have. Names of transformers need not be: whatever is not blank and has no colon is one,
and it is spliced into a path. A name without slashes names a file in the directory of its plugin, and names like that
keep the files of different transformers apart, from each other and from the documents that all plugins share. A name with
slashes leads wherever it says.

## Contents

* `TransformerData.Checked`, `isEntryName_of_isPluginId` — data that passed the checks, and ids as names of files.
* `KeptApart` — settings in files of their own.
* `keptApart_of_accepted` — transformers whose names have no slash.
* `trespasser_not_keptApart` — what slashes in a name can do.
-/

namespace ClassWeaver

open Identity
open ClassWeaver.Path (IsEntryName)

variable {workingDirectory : Location} {directory root : Path} {t : Transformer}

/-! ## Ids and names -/

/-- Data that passed the checks. -/
def Identity.TransformerData.Checked (d : TransformerData) : Prop :=
  TransformerData.build d.pluginId d.name d.description d.enabledByDefault = .ok d

theorem Identity.TransformerData.Checked.sound {d : TransformerData} (h : d.Checked) : d.Sound :=
  (TransformerData.check_eq_ok_iff.mp h).2

theorem Identity.TransformerData.Checked.isPluginId {d : TransformerData} (h : d.Checked) : isPluginId d.pluginId = true :=
  isPluginId_iff.mpr h.sound.pluginId

theorem isIdChar_of_mem {id : String} {c : Char} (h : isPluginId id = true) (hc : c ∈ id.toList) : isIdChar c = true := by
  obtain ⟨first, rest, hid, hfirst, hrest⟩ := (isPluginId_iff.mp h).chars
  rw [isIdChar_iff]
  rw [hid] at hc
  rcases List.mem_cons.mp hc with rfl | hc
  · exact .inl hfirst
  · exact hrest c hc

theorem isEntryName_of_isPluginId {id : String} (h : isPluginId id = true) : IsEntryName id := by
  refine ⟨?_, ?_, ?_, ?_⟩
  · rintro rfl
    cases h
  · rintro rfl
    cases h
  · rintro rfl
    cases h
  · intro hslash
    cases isIdChar_of_mem h hslash

/-- A name without slashes, with the ending of documents, is a name that files can have. -/
theorem isEntryName_document {name : String} (h : '/' ∉ name.toList) : IsEntryName (name ++ ".json") := by
  -- the ending alone is longer than the texts that lead elsewhere
  have hlength : 5 ≤ (name ++ ".json").length := by
    rw [String.length_append]
    exact Nat.le_add_left 5 _
  refine ⟨?_, ?_, ?_, ?_⟩
  · intro heq
    rw [heq] at hlength
    exact absurd hlength (by decide)
  · intro heq
    rw [heq] at hlength
    exact absurd hlength (by decide)
  · intro heq
    rw [heq] at hlength
    exact absurd hlength (by decide)
  · rw [String.toList_append, List.mem_append, not_or]
    exact ⟨h, by decide⟩

/-! ## Places -/

/-- The documents of a root are two names below it. -/
theorem place_configDirectory : (root.join configDirectory).place workingDirectory =
    root.place workingDirectory ++ ["config", "graft"] := by
  have hnames : configDirectory = "/".intercalate ["config", "graft"] := rfl
  rw [hnames]
  exact Path.place_join_names (by simp) (by decide)

theorem place_settingsDirectory {id : String} (hid : isPluginId id = true) :
    (settingsDirectory directory id).place workingDirectory = directory.place workingDirectory ++ ["plugins", id] := by
  unfold settingsDirectory
  rw [Path.place_join_entry (isEntryName_of_isPluginId hid), Path.place_join_entry (by decide), List.append_assoc]
  rfl

/-- **The settings of a transformer whose name has no slash are in its plugin's directory**, under its name. -/
theorem place_settingsPath (ht : t.data.Checked) (hname : '/' ∉ t.data.name.toList) :
    (settingsPath directory t).place workingDirectory =
      directory.place workingDirectory ++ ["plugins", t.data.pluginId, t.data.name ++ ".json"] := by
  unfold settingsPath
  rw [Path.place_join_entry (isEntryName_document hname), place_settingsDirectory ht.isPluginId, List.append_assoc]
  rfl

/-! ## Settings in files of their own -/

/-- Every transformer's settings are right inside the directory of its plugin, in a file that neither another transformer
nor the plugins together use. -/
structure KeptApart (root : Path) (workingDirectory : Location) (transformers : List Transformer) : Prop where
  inside : ∀ t ∈ transformers, ∃ file, (settingsPath (root.join configDirectory) t).place workingDirectory =
    root.place workingDirectory ++ ["config", "graft", "plugins", t.data.pluginId, file]
  apart : transformers.Pairwise fun t t' => (settingsPath (root.join configDirectory) t).place workingDirectory ≠
    (settingsPath (root.join configDirectory) t').place workingDirectory
  notSwitches : ∀ t ∈ transformers, (settingsPath (root.join configDirectory) t).place workingDirectory ≠
    ((root.join configDirectory).join "environment.json").place workingDirectory
  notFlags : ∀ t ∈ transformers, (settingsPath (root.join configDirectory) t).place workingDirectory ≠
    ((root.join configDirectory).join "transformers.json").place workingDirectory

/-- Whether a name is a single one, as paths go. -/
def Transformer.hasPlainName (t : Transformer) : Bool :=
  !t.data.name.toList.contains '/'

theorem hasPlainName_iff : t.hasPlainName = true ↔ '/' ∉ t.data.name.toList := by
  simp [Transformer.hasPlainName]

/-- A document next to the plugins' directories is in none of them. -/
theorem place_ne_of_inside {name id file : String} (hname : IsEntryName name) :
    directory.place workingDirectory ++ ["plugins", id, file] ≠ (directory.join name).place workingDirectory := by
  rw [Path.place_join_entry hname, Ne, List.append_cancel_left_eq]
  exact nofun

/-- Transformers of different names have their settings in different files. -/
theorem place_settingsPath_ne {t t' : Transformer} (ht : t.data.Checked) (ht' : t'.data.Checked)
    (hname : '/' ∉ t.data.name.toList) (hname' : '/' ∉ t'.data.name.toList) (hne : t.registryName ≠ t'.registryName) :
    (settingsPath directory t).place workingDirectory ≠ (settingsPath directory t').place workingDirectory := by
  rw [place_settingsPath ht hname, place_settingsPath ht' hname', Ne, List.append_cancel_left_eq]
  intro heq
  simp only [List.cons.injEq, and_true, true_and] at heq
  obtain ⟨hid, hdocument⟩ := heq
  have hnames : t.data.name = t'.data.name := by
    have hchars := congrArg String.toList hdocument
    rw [String.toList_append, String.toList_append, List.append_cancel_right_eq] at hchars
    exact String.toList_inj.mp hchars
  refine hne ?_
  unfold Transformer.registryName TransformerData.registryName
  rw [hid, hnames]

/-- **Accepted transformers whose names have no slash are kept apart**, whatever the others are called and wherever the
documents are; and every transformer, whatever it is called, goes by the id of the plugin that brings it. -/
theorem keptApart_of_accepted {b : Blackboard} (hb : b.Accepted) (hdata : ∀ t ∈ b.transformers, t.data.Checked)
    (root : Path) (workingDirectory : Location) :
    KeptApart root workingDirectory (b.transformers.filter Transformer.hasPlainName) ∧
      ∀ t ∈ b.transformers, ∃ d ∈ b.plugins, t ∈ d.plugin.transformers ∧ t.data.pluginId = d.id := by
  have hplain {t : Transformer} (ht : t ∈ b.transformers.filter Transformer.hasPlainName) :
      t.data.Checked ∧ '/' ∉ t.data.name.toList := by
    obtain ⟨hmem, hname⟩ := List.mem_filter.mp ht
    exact ⟨hdata t hmem, hasPlainName_iff.mp hname⟩
  have hplace {directory : Path} {t : Transformer} (ht : t ∈ b.transformers.filter Transformer.hasPlainName) :
      (settingsPath directory t).place workingDirectory =
        directory.place workingDirectory ++ ["plugins", t.data.pluginId, t.data.name ++ ".json"] :=
    place_settingsPath (hplain ht).1 (hplain ht).2
  refine ⟨⟨fun t ht => ⟨t.data.name ++ ".json", ?_⟩, ?_, fun t ht => ?_, fun t ht => ?_⟩, fun t ht => hb.exists_owner ht⟩
  · rw [hplace ht, place_configDirectory, List.append_assoc]
    rfl
  · have hnames := List.pairwise_map.mp hb.nodup_names
    refine (hnames.filter _).imp_of_mem fun ht ht' hne => ?_
    exact place_settingsPath_ne (hplain ht).1 (hplain ht').1 (hplain ht).2 (hplain ht').2 hne
  · rw [hplace ht]
    exact place_ne_of_inside (by decide)
  · rw [hplace ht]
    exact place_ne_of_inside (by decide)

/-! ## Names with and without slashes -/

theorem isClassName_classA : isClassName "A".toList = true := by
  decide

theorem ofKeyword?_classA : Primitive.ofKeyword? "A" = none := by
  decide

/-- The identity of a class named `A`. -/
def classA : TypeDescriptor where
  element := .object ⟨"A", isClassName_classA, ofKeyword?_classA⟩
  dimensions := 0
  dimensions_lt := TypeDescriptor.scalar_dimensions_lt
  void_scalar := TypeDescriptor.object_void_scalar _ 0

/-- Settings of one kind: whether to be strict. -/
def strictFormat : SettingsFormat Bool where
  toDocument strict := .object [("strict", .bool strict)]
  ofDocument document :=
    match (document.get? "strict").bind Json.toBool? with
    | some strict => .ok strict
    | none => Json.mismatch document "a map"
  default := true

/-- A transformer that can be strict or not, and that does nothing else. -/
def tunable (pluginId name : String) : Transformer where
  data := ⟨pluginId, name, none, true⟩
  targets := [classA]
  settings := some (.typed strictFormat true)
  run := pure ()

/-- A plugin that brings transformers and agrees to every environment. -/
def bringing (id : String) (transformers : List Transformer) : DiscoveredPlugin where
  plugin := {
    metadata := ⟨id, "1.0.0", id, none, none, none, none, []⟩
    transformers
    rootPackages := []
    objection := pure none }
  typeName := id
  origin := .classpath ⟨""⟩

/-- Two plugins with a transformer of the same name each. -/
def neighbours : List DiscoveredPlugin :=
  [bringing "alpha" [tunable "alpha" "tuned"], bringing "beta" [tunable "beta" "tuned"]]

/-- A plugin whose transformer's name leads to the flags of all transformers. -/
def trespasser : DiscoveredPlugin :=
  bringing "alpha" [tunable "alpha" "../../transformers"]

theorem keptApart_neighbours :
    ∃ b, (Blackboard.accept neighbours (.static ⟨"r"⟩ [])).1 = .ok b ∧ b.transformers.length = 2 ∧
      b.transformers.filter Transformer.hasPlainName = b.transformers ∧
        KeptApart ⟨"r"⟩ [] (b.transformers.filter Transformer.hasPlainName) := by
  refine ⟨_, rfl, rfl, rfl, ?_⟩
  have hb : Blackboard.Accepted _ := ⟨neighbours, .static ⟨"r"⟩ [], rfl⟩
  refine (keptApart_of_accepted hb ?_ ⟨"r"⟩ []).1
  exact List.forall_mem_cons.mpr ⟨by rfl, List.forall_mem_singleton.mpr (by rfl)⟩

/-- **A name with slashes is accepted, and its settings are then in the file of the flags.** -/
theorem trespasser_not_keptApart :
    ∃ b, (Blackboard.accept [trespasser] (.static ⟨"r"⟩ [])).1 = .ok b ∧ (∀ t ∈ b.transformers, t.data.Checked) ∧
      (∃ t ∈ b.transformers, t.settings.isSome = true ∧
        (settingsPath (Path.join ⟨"r"⟩ configDirectory) t).place [] = ["r", "config", "graft", "transformers.json"]) ∧
      ¬KeptApart ⟨"r"⟩ [] b.transformers := by
  refine ⟨_, rfl, List.forall_mem_singleton.mpr (by rfl), ⟨_, List.mem_singleton.mpr rfl, rfl, by decide⟩, ?_⟩
  intro h
  exact h.notFlags _ (List.mem_singleton.mpr rfl) (by decide)

end ClassWeaver
