import ClassWeaver.Proofs.Plugin.Attribution
import ClassWeaver.Proofs.Plugin.Manifests

/-!
# Discovery

Directories of the classpath bring types, then the candidates do, each in its turn. Discovery makes a plugin of each finding.
It does so in two rounds, and the archives are not opened before the plugins of the classpath are made; but where everything
can be read, reading cannot fail, and the two rounds are one row of plugins to be made. So discovery succeeds if the catalog
has every type that was found, and otherwise the first type that it does not have is reported.

## Contents

* `Collects`, `classpathEntries_eq_ok`, `scanFiles_eq_ok` — what places bring, one after the other.
* `Found` — all findings in their order.
* `Readable` — file trees with readable files and manifests that are text.
* `Discovers`, `discovers_mapM` — plugins made of findings.
* `discover_exact` — discovery.
-/

namespace ClassWeaver

open FileTree (bytesOfText)

variable {t : FileTree} {root path : Path} {paths classpath : List Path} {c : PluginCatalog}

/-! ## One place after the other -/

/-- What some places bring, one after the other. -/
inductive Collects {α : Type} (brings : α → List Finding → Prop) : List α → List Finding → Prop
  | nil : Collects brings [] []
  | cons {place : α} {rest : List α} {part found : List Finding} (hpart : brings place part)
      (hrest : Collects brings rest found) : Collects brings (place :: rest) (part ++ found)

section

variable {α : Type} {brings : α → List Finding → Prop} {place : α} {rest : List α} {part others found : List Finding}

theorem collects_nil_iff : Collects brings [] found ↔ found = [] := by
  constructor
  · rintro ⟨⟩
    rfl
  · rintro rfl
    exact .nil

/-- Places that bring one thing each bring one thing together. -/
theorem collects_cons_iff (hpart : ∀ found, brings place found ↔ found = part)
    (hrest : ∀ found, Collects brings rest found ↔ found = others) :
    Collects brings (place :: rest) found ↔ found = part ++ others := by
  constructor
  · rintro (_ | ⟨hplace, hmore⟩)
    rw [(hpart _).mp hplace, (hrest _).mp hmore]
  · rintro rfl
    exact .cons ((hpart _).mpr rfl) ((hrest _).mpr rfl)

end

/-- **The classpath brings the types that are read from it**, directory by directory. -/
theorem classpathEntries_eq_ok (h : ∀ directory ∈ classpath, ReadableDirectory t directory) :
    ∃ entries, classpathEntries t classpath = .ok entries ∧ ∀ found, Collects (DirectoryFinds t) classpath found ↔
      found = entries.map fun entry => ⟨entry.2, .classpath entry.1⟩ := by
  induction classpath with
  | nil => exact ⟨[], rfl, fun found => collects_nil_iff⟩
  | cons directory classpath ih =>
    obtain ⟨hdirectory, hrest⟩ := List.forall_mem_cons.mp h
    obtain ⟨types, htypes, hfinds⟩ := directoryFinds_iff hdirectory
    obtain ⟨entries, hentries, hcollects⟩ := ih hrest
    refine ⟨types.map (fun typeName => (directory, typeName)) ++ entries, ?_, fun found => ?_⟩
    · rw [classpathEntries, htypes, hentries]
      rfl
    · rw [collects_cons_iff hfinds hcollects, List.map_append, List.map_map]
      rfl

theorem scanFiles_cons_of_eq_ok {typeName? : Option String} {manifests : List ArchiveManifest}
    (hfile : fileType t path = .ok typeName?) (hrest : scanFiles t paths = .ok manifests) :
    scanFiles t (path :: paths) = .ok (typeName?.toList.map (ArchiveManifest.mk path) ++ manifests) := by
  unfold fileType at hfile
  rw [scanFiles]
  cases harchive : archiveAt? t path with
  | none =>
    -- no archive, so it is passed over
    rw [harchive] at hfile
    cases hfile
    exact hrest
  | some a =>
    rw [harchive] at hfile
    dsimp only at hfile ⊢
    rw [hfile]
    cases typeName? with
    | none => exact hrest
    | some typeName =>
      show (do return ArchiveManifest.mk path typeName :: (← scanFiles t paths)) = _
      rw [hrest]
      rfl

/-- **Files bring the types that are read from them**, one after the other. -/
theorem scanFiles_eq_ok (h : ∀ path ∈ paths, ReadableFile t path) :
    ∃ manifests, scanFiles t paths = .ok manifests ∧ ∀ found, Collects (FileFinds t) paths found ↔
      found = manifests.map fun m => ⟨m.typeName, .archive m.archive⟩ := by
  induction paths with
  | nil => exact ⟨[], rfl, fun found => collects_nil_iff⟩
  | cons path paths ih =>
    obtain ⟨hpath, hrest⟩ := List.forall_mem_cons.mp h
    obtain ⟨typeName?, htype, hfinds⟩ := fileFinds_iff hpath
    obtain ⟨manifests, hmanifests, hcollects⟩ := ih hrest
    refine ⟨_, scanFiles_cons_of_eq_ok htype hmanifests, fun found => ?_⟩
    rw [collects_cons_iff hfinds hcollects, List.map_append, List.map_map]
    rfl

/-! ## All findings -/

/-- What is found: the types of the classpath, and behind them those of the candidates. -/
def Found (t : FileTree) (classpath : List Path) (root : Path) (findings : List Finding) : Prop :=
  ∃ onClasspath candidates inArchives, Collects (DirectoryFinds t) classpath onClasspath ∧
    Candidates t root candidates ∧ Collects (FileFinds t) candidates inArchives ∧ findings = onClasspath ++ inArchives

/-- The files that are read can be read, and the manifests among them and in them are text. -/
structure Readable (t : FileTree) (classpath : List Path) (root : Path) : Prop where
  directories : ∀ directory ∈ classpath, ReadableDirectory t directory
  files : ∀ name ∈ archiveDirectories, ∀ names, IsNear t (root.join name) names →
    ReadableFile t ((root.join name).joinAll names)

theorem Readable.candidates (h : Readable t classpath root) (ht : t.WellFormed) :
    ∀ path ∈ candidateArchives t root, ReadableFile t path := by
  intro path hpath
  rw [candidateArchives_eq, List.mem_flatMap] at hpath
  obtain ⟨name, hname, hpath⟩ := hpath
  obtain ⟨names, hnames, rfl⟩ := List.mem_map.mp hpath
  exact h.files name hname names ((mem_filesUnder_iff ht).mp hnames)

/-! ## Plugins -/

/-- Makes the plugin of a finding. -/
def PluginCatalog.makeFound (c : PluginCatalog) (f : Finding) : Except DiscoveryFailure DiscoveredPlugin :=
  c.make f.typeName f.origin

/-- **Reading and making in turns** comes to making what was read. -/
theorem discover_eq_mapM {entries : List (Path × String)} {manifests : List ArchiveManifest}
    (hentries : classpathEntries t classpath = .ok entries) (hmanifests : scanArchives t root = .ok manifests) :
    discover c classpath t root = (entries.map (fun entry => Finding.mk entry.2 (.classpath entry.1)) ++
      manifests.map fun m => Finding.mk m.typeName (.archive m.archive)).mapM c.makeFound := by
  -- reading succeeds in both rounds, so only the making can stop between them
  rw [List.mapM_append, List.mapM_map, List.mapM_map, discover, hentries, hmanifests]
  rfl

/-- What comes of findings: a plugin of each, in their order, if the catalog has all types; and otherwise a failure that names
the first type that it does not have. -/
structure Discovers (c : PluginCatalog) (findings : List Finding)
    (result : Except DiscoveryFailure (List DiscoveredPlugin)) : Prop where
  succeeds : (∃ plugins, result = .ok plugins) ↔ ∀ f ∈ findings, c.contains f.typeName = true
  plugins : ∀ plugins, result = .ok plugins → List.Forall₂ (fun f d =>
    c.instantiate? f.typeName = some d.plugin ∧ d.typeName = f.typeName ∧ d.origin = f.origin) findings plugins
  fails : ∀ failure, result = .error failure ↔ ∃ front f back, findings = front ++ f :: back ∧
    (∀ g ∈ front, c.contains g.typeName = true) ∧ c.contains f.typeName = false ∧
      failure = .unknownType f.typeName f.origin

namespace PluginCatalog

variable {typeName : String} {f : Finding}

theorem contains_eq_isSome (c : PluginCatalog) (typeName : String) :
    c.contains typeName = (c.instantiate? typeName).isSome :=
  Std.TreeMap.contains_eq_isSome_getElem?

theorem makeFound_eq_ok_iff {d : DiscoveredPlugin} : c.makeFound f = .ok d ↔
    c.instantiate? f.typeName = some d.plugin ∧ d.typeName = f.typeName ∧ d.origin = f.origin := by
  unfold makeFound make
  cases c.instantiate? f.typeName with
  | none => exact iff_of_false nofun fun h => nomatch h.1
  | some plugin =>
    constructor
    · intro h
      cases h
      exact ⟨rfl, rfl, rfl⟩
    · obtain ⟨plugin', typeName, origin⟩ := d
      rintro ⟨hplugin, rfl, rfl⟩
      cases hplugin
      rfl

theorem exists_makeFound_eq_ok_iff : (∃ d, c.makeFound f = .ok d) ↔ c.contains f.typeName = true := by
  rw [contains_eq_isSome, Option.isSome_iff_exists]
  constructor
  · rintro ⟨d, hd⟩
    exact ⟨d.plugin, (makeFound_eq_ok_iff.mp hd).1⟩
  · rintro ⟨plugin, hplugin⟩
    exact ⟨⟨plugin, f.typeName, f.origin⟩, makeFound_eq_ok_iff.mpr ⟨hplugin, rfl, rfl⟩⟩

theorem makeFound_eq_error_iff {failure : DiscoveryFailure} : c.makeFound f = .error failure ↔
    c.contains f.typeName = false ∧ failure = .unknownType f.typeName f.origin := by
  rw [contains_eq_isSome]
  unfold makeFound make
  cases c.instantiate? f.typeName with
  | none => simp [eq_comm]
  | some plugin => exact iff_of_false nofun fun h => nomatch h.1

end PluginCatalog

/-- **A row of plugins is made of findings**, all of it or nothing. -/
theorem discovers_mapM (c : PluginCatalog) (findings : List Finding) :
    Discovers c findings (findings.mapM c.makeFound) where
  succeeds := by
    simp only [exists_except_mapM_eq_ok_iff, PluginCatalog.exists_makeFound_eq_ok_iff]
  plugins plugins h :=
    (except_mapM_eq_ok_iff.mp h).imp fun _ _ hd => PluginCatalog.makeFound_eq_ok_iff.mp hd
  fails failure := by
    simp only [except_mapM_eq_error_iff, PluginCatalog.exists_makeFound_eq_ok_iff, PluginCatalog.makeFound_eq_error_iff]

/-- **Discovery is complete, in order, and all or nothing.** What is found is told by the file tree: for each directory of the
classpath the lines of its manifest that are neither blank nor comments, and behind them, for the files one or two names below
the two directories for archives, in the order of their names, the first line of the manifest that is not blank. Discovery
succeeds if and only if the catalog has every type that is found; then there is one plugin for each finding, in this order and
with its origin. Otherwise it fails with the first finding whose type the catalog does not have. -/
theorem discover_exact (c : PluginCatalog) (ht : t.WellFormed) (hreadable : Readable t classpath root) :
    ∃ findings, (∀ others, Found t classpath root others ↔ others = findings) ∧
      Discovers c findings (discover c classpath t root) := by
  obtain ⟨entries, hentries, hclasspath⟩ := classpathEntries_eq_ok hreadable.directories
  obtain ⟨manifests, hmanifests, harchives⟩ := scanFiles_eq_ok (hreadable.candidates ht)
  refine ⟨_, fun others => ⟨?_, ?_⟩, discover_eq_mapM hentries hmanifests ▸ discovers_mapM c _⟩
  · rintro ⟨onClasspath, candidates, inArchives, honClasspath, hcandidates, hinArchives, rfl⟩
    obtain rfl := (candidates_iff ht).mp hcandidates
    rw [(hclasspath _).mp honClasspath, (harchives _).mp hinArchives]
  · rintro rfl
    exact ⟨_, _, _, (hclasspath _).mpr rfl, (candidates_iff ht).mpr rfl, (harchives _).mpr rfl, rfl⟩

/-! ## Manifests of all kinds -/

/-- An archive whose manifest holds a text. -/
def announcing (text : String) : Archive where
  entries := [⟨"com/A.class", some []⟩, ⟨manifestPath, some (bytesOfText text)⟩]
  readable := true

theorem isManifest_announcing {text : String} {content : List UInt8} :
    (announcing text).IsManifest content ↔ content = bytesOfText text := by
  rw [Archive.isManifest_iff, announcing, Archive.manifest?]
  exact Option.some_inj.trans eq_comm

theorem readableFile_announcing {text : String} (h : t.read path = .ok (.archive (announcing text))) :
    ReadableFile t path := by
  refine ⟨_, h, fun a ha bytes hbytes => ?_⟩
  cases ha
  exact ⟨rfl, text, isManifest_announcing.mp hbytes⟩

/-- A directory of the classpath, and archives at all depths: by their names, those in the directory come before the one
beside it, though its path comes first as a text. -/
def nested : FileTree where
  nodes := [(["cp"], .directory), (["cp", "META-INF"], .directory), (["cp", "META-INF", "graft"], .directory),
    (["cp", "META-INF", "graft", "launch-plugin"],
      .file (.bytes (bytesOfText "# linked\n  one.First \r\n\none.Second"))),
    (["r"], .directory), (["r", "plugins"], .directory),
    (["r", "plugins", "a.jar"], .file (.archive (announcing "two.Last"))), (["r", "plugins", "a"], .directory),
    (["r", "plugins", "a", "z.jar"], .file (.archive (announcing "\n  two.First \nignored"))),
    (["r", "plugins", "a", "b"], .directory),
    (["r", "plugins", "a", "b", "x.jar"], .file (.archive (announcing "too.Deep"))),
    (["r", "plugins", "notes.txt"], .file (.bytes [104])), (["r", "launch-plugins"], .directory),
    (["r", "launch-plugins", "c.jar"], .file (.archive (announcing "#three")))]
  workingDirectory := []

/-- What is found there. -/
def nestedFindings : List Finding :=
  [⟨"one.First", .classpath ⟨"cp"⟩⟩, ⟨"one.Second", .classpath ⟨"cp"⟩⟩, ⟨"two.First", .archive ⟨"r/plugins/a/z.jar"⟩⟩,
    ⟨"two.Last", .archive ⟨"r/plugins/a.jar"⟩⟩, ⟨"#three", .archive ⟨"r/launch-plugins/c.jar"⟩⟩]

/-- A catalog with some types. -/
def catalogOf (types : List String) : PluginCatalog :=
  types.foldl (fun c typeName => c.register typeName (packaged "p" [])) .empty

theorem wellFormed_nested : nested.WellFormed := by
  decide +kernel

theorem filesNear_nested : FilesNear nested ((Path.mk "r").join "plugins") [["a", "z.jar"], ["a.jar"], ["notes.txt"]] ∧
    FilesNear nested ((Path.mk "r").join "launch-plugins") [["c.jar"]] := by
  have hplugins : nested.resolve ((Path.mk "r").join "plugins") = .ok (.found ["r", "plugins"] .directory) := by
    decide +kernel
  have hlaunchPlugins : nested.resolve ((Path.mk "r").join "launch-plugins") =
      .ok (.found ["r", "launch-plugins"] .directory) := by
    decide +kernel
  exact ⟨(filesNear_iff_perm wellFormed_nested hplugins).mpr ⟨by decide, by decide +kernel⟩,
    (filesNear_iff_perm wellFormed_nested hlaunchPlugins).mpr ⟨by decide, by decide +kernel⟩⟩

/-- What the files hold that discovery reads. -/
theorem read_nested :
    nested.read ((Path.mk "cp").join manifestPath) =
        .ok (.bytes (bytesOfText "# linked\n  one.First \r\n\none.Second")) ∧
      nested.read ⟨"r/plugins/a/z.jar"⟩ = .ok (.archive (announcing "\n  two.First \nignored")) ∧
      nested.read ⟨"r/plugins/a.jar"⟩ = .ok (.archive (announcing "two.Last")) ∧
      nested.read ⟨"r/plugins/notes.txt"⟩ = .ok (.bytes [104]) ∧
      nested.read ⟨"r/launch-plugins/c.jar"⟩ = .ok (.archive (announcing "#three")) := by
  decide +kernel

theorem readable_nested : Readable nested [⟨"cp"⟩] ⟨"r"⟩ := by
  obtain ⟨hmanifest, hfirst, hlast, hnotes, hthree⟩ := read_nested
  refine ⟨?_, ?_⟩
  · simp only [List.forall_mem_singleton]
    exact fun _ => ⟨_, hmanifest⟩
  · simp only [archiveDirectories, List.forall_mem_cons, ← filesNear_nested.1.mem_iff, ← filesNear_nested.2.mem_iff]
    have hbytes : ReadableFile nested ⟨"r/plugins/notes.txt"⟩ := by
      refine ⟨_, hnotes, fun a ha => ?_⟩
      cases ha
    exact ⟨⟨readableFile_announcing hfirst, readableFile_announcing hlast, hbytes, List.forall_mem_nil _⟩,
      ⟨readableFile_announcing hthree, List.forall_mem_nil _⟩, List.forall_mem_nil _⟩

theorem found_nested : Found nested [⟨"cp"⟩] ⟨"r"⟩ nestedFindings := by
  obtain ⟨hmanifest, hfirst, hlast, hnotes, hthree⟩ := read_nested
  have hnamed {path : Path} {text : String} (first : String) (more : List String)
      (hread : nested.read path = .ok (.archive (announcing text))) (hlines : first :: more = manifestLines text) :
      FileFinds nested path [⟨first, .archive path⟩] :=
    .named hread (isManifest_announcing.mpr rfl) (entries_iff_manifestLines.mpr hlines)
  have hentries : Text.Entries "# linked\n  one.First \r\n\none.Second" ["# linked", "one.First", "one.Second"] :=
    entries_iff_manifestLines.mpr (by decide +kernel)
  have hclasspath := Collects.cons (DirectoryFinds.manifest hmanifest hentries) .nil
  have hcandidates : Candidates nested ⟨"r"⟩
      [⟨"r/plugins/a/z.jar"⟩, ⟨"r/plugins/a.jar"⟩, ⟨"r/plugins/notes.txt"⟩, ⟨"r/launch-plugins/c.jar"⟩] :=
    ⟨_, _, filesNear_nested.1, filesNear_nested.2, by decide +kernel⟩
  have harchives := Collects.cons (hnamed "two.First" ["ignored"] hfirst (by decide +kernel)) <|
    .cons (hnamed "two.Last" [] hlast (by decide +kernel)) <| .cons (.noArchive hnotes) <|
      .cons (hnamed "#three" [] hthree (by decide +kernel)) .nil
  exact ⟨_, _, _, hclasspath, hcandidates, harchives, by decide +kernel⟩

/-- All that is found is made where the catalog has it; where a type is not in the catalog, the first such is reported,
though the types before it and behind it are there. -/
theorem discover_exact_nested :
    nested.WellFormed ∧ Readable nested [⟨"cp"⟩] ⟨"r"⟩ ∧ Found nested [⟨"cp"⟩] ⟨"r"⟩ nestedFindings ∧
      (∃ plugins, discover (catalogOf (nestedFindings.map Finding.typeName)) [⟨"cp"⟩] nested ⟨"r"⟩ = .ok plugins ∧
        plugins.map (fun d => Finding.mk d.typeName d.origin) = nestedFindings) ∧
      discover (catalogOf ["one.First", "one.Second", "two.First", "#three"]) [⟨"cp"⟩] nested ⟨"r"⟩ =
        .error (.unknownType "two.Last" (.archive ⟨"r/plugins/a.jar"⟩)) := by
  refine ⟨wellFormed_nested, readable_nested, found_nested, ?_, ?_⟩
  · obtain ⟨findings, hfound, hdiscovers⟩ :=
      discover_exact (catalogOf (nestedFindings.map Finding.typeName)) wellFormed_nested readable_nested
    obtain rfl := (hfound _).mp found_nested
    obtain ⟨plugins, hplugins⟩ := hdiscovers.succeeds.mpr (by decide +kernel)
    refine ⟨plugins, hplugins, ?_⟩
    have hsame : List.Forall₂ (fun f d => f = Finding.mk d.typeName d.origin) nestedFindings plugins :=
      (hdiscovers.plugins plugins hplugins).imp fun f d hd => by rw [hd.2.1, hd.2.2]
    rw [← List.forall₂_map_right_iff, List.forall₂_eq_eq_eq] at hsame
    exact hsame.symm
  · obtain ⟨findings, hfound, hdiscovers⟩ :=
      discover_exact (catalogOf ["one.First", "one.Second", "two.First", "#three"]) wellFormed_nested readable_nested
    obtain rfl := (hfound _).mp found_nested
    exact (hdiscovers.fails _).mpr ⟨nestedFindings.take 3, ⟨"two.Last", .archive ⟨"r/plugins/a.jar"⟩⟩,
      nestedFindings.drop 4, rfl, by decide +kernel, by decide +kernel, rfl⟩

end ClassWeaver
