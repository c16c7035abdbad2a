import ClassWeaver.Proofs.Plugin.Archives

/-!
# Files in archives and the plugins that own them

A plugin owns what is below its directories: those of its root packages and those of its resources. Ownership is decided
by the fronts of names, and every front ends in a slash, so a directory never owns what only starts with the same letters.
Plugins may own the same file; then the first of them has it. So the files that are attributed are the files that have an
owner, each of them as often as the archives list it.

## Contents

* `Path.Holds`, `slash_prefix_iff_holds` — files below a directory, by names and by spelling.
* `packageDirectory`, `IsPackageName`, `segments_packageDirectory` — the directory of a package.
* `LaunchPlugin.directories`, `owns_iff_holds` — what a plugin owns.
* `archiveFiles` — the files in all archives.
* `Attributed`, `attributed_attributedEntries` — the files that have owners, and whose they are.
* `attributedEntries_exact` — all of it, with the boundaries of packages.
-/

namespace ClassWeaver

variable {t : FileTree} {root : Path} {plugins : List LaunchPlugin} {p : LaunchPlugin} {name : String}

/-! ## Directories -/

/-- The name is that of a file below the directory: behind the directory's names there are more, and the last of them is
not empty. -/
def Path.Holds (directory : Path) (name : String) : Prop :=
  ∃ between last, (Path.mk name).segments = directory.segments ++ (between ++ [last]) ∧ last ≠ ""

/-- The names in a path with a slash in it are those on both sides of the slash. -/
theorem Path.segments_slash (front back : List Char) :
    (Path.mk (String.ofList (front ++ '/' :: back))).segments =
      (Path.mk (String.ofList front)).segments ++ (Path.mk (String.ofList back)).segments := by
  unfold Path.segments
  rw [String.toList_ofList, String.toList_ofList, String.toList_ofList, Text.split_append, List.map_append]

theorem Path.segments_ne_nil (path : Path) : path.segments ≠ [] := by
  unfold Path.segments
  rw [Ne, List.map_eq_nil_iff]
  exact Text.split_ne_nil _ _

/-- Names that were split at slashes have none. -/
theorem Path.noSlash_of_mem_segments {path : Path} {part : String} (h : part ∈ path.segments) : '/' ∉ part.toList := by
  unfold Path.segments at h
  obtain ⟨cs, hcs, rfl⟩ := List.mem_map.mp h
  rw [String.toList_ofList]
  exact Text.notMem_of_mem_split hcs

/-- A path whose names go on behind those of a directory is spelled with a slash behind the directory. -/
theorem Path.exists_toList_of_segments {directory : Path} {more : List String} (hne : more ≠ [])
    (h : (Path.mk name).segments = directory.segments ++ more) :
    ∃ back, name.toList = directory.text.toList ++ '/' :: back ∧ (Path.mk (String.ofList back)).segments = more := by
  have hslash : ∀ part ∈ more, '/' ∉ part.toList := by
    intro part hpart
    exact Path.noSlash_of_mem_segments (h ▸ List.mem_append_right _ hpart)
  have hmore := Path.segments_intercalate hne hslash
  refine ⟨("/".intercalate more).toList, ?_, by rw [String.ofList_toList, hmore]⟩
  have hspelled := Path.segments_slash directory.text.toList ("/".intercalate more).toList
  rw [String.ofList_toList, String.ofList_toList, hmore] at hspelled
  -- the names tell the path, so there is no other spelling
  have hsame : name = _ := congrArg Path.text (Path.segments_injective (h.trans hspelled.symm))
  rw [hsame, String.toList_ofList]

/-- An empty last name comes from a slash at the end. -/
theorem Path.getLast?_of_segments {names : List String} (hne : names ≠ [])
    (h : (Path.mk name).segments = names ++ [""]) : name.toList.getLast? = some '/' := by
  have hslash : ∀ part ∈ names, '/' ∉ part.toList := by
    intro part hpart
    exact Path.noSlash_of_mem_segments (h ▸ List.mem_append_left _ hpart)
  have hfront := Path.segments_intercalate hne hslash
  obtain ⟨back, hback, hempty⟩ := Path.exists_toList_of_segments (List.cons_ne_nil _ _) (hfront.symm ▸ h)
  have hnothing : (Path.mk (String.ofList back)) = ⟨""⟩ := Path.segments_injective hempty
  obtain rfl : back = [] := by simpa using congrArg (fun path : Path => path.text.toList) hnothing
  rw [hback, List.getLast?_concat]

/-- **A directory's spelling with a slash is in front of the files below it**, and of no others. -/
theorem Path.slash_prefix_iff_holds {directory : Path} (hfile : name.toList.getLast? ≠ some '/') :
    directory.text.toList ++ ['/'] <+: name.toList ↔ directory.Holds name := by
  constructor
  · rintro ⟨back, hback⟩
    rw [List.append_assoc, List.singleton_append] at hback
    have hsegments := Path.segments_slash directory.text.toList back
    rw [hback, String.ofList_toList, String.ofList_toList] at hsegments
    obtain ⟨between, last, hlast⟩ := (List.eq_nil_or_concat _).resolve_left (Path.segments_ne_nil ⟨String.ofList back⟩)
    rw [hlast, List.concat_eq_append] at hsegments
    refine ⟨between, last, hsegments, ?_⟩
    rintro rfl
    rw [← List.append_assoc] at hsegments
    exact hfile (Path.getLast?_of_segments (by simp [Path.segments_ne_nil]) hsegments)
  · rintro ⟨between, last, hsegments, -⟩
    obtain ⟨back, hback, -⟩ := Path.exists_toList_of_segments (by simp) hsegments
    exact ⟨back, by rw [hback, List.append_assoc, List.singleton_append]⟩

/-! ## What a plugin owns -/

/-- The directory of a package: its dots stand for slashes, and those at its end do not count. -/
def packageDirectory (package : String) : Path :=
  ⟨String.ofList ((package.toList.reverse.dropWhile (· == '.')).reverse.map fun c => if c == '.' then '/' else c)⟩

/-- A name of a package, or of a part of one. -/
structure IsPackageName (name : String) : Prop where
  ne_empty : name ≠ ""
  noDot : '.' ∉ name.toList
  noSlash : '/' ∉ name.toList

/-- With slashes in place of the dots between them, names are the names of a path. -/
theorem map_intercalate_dots {names : List String} (h : ∀ name ∈ names, IsPackageName name) :
    ((".".intercalate names).toList.map fun c => if c == '.' then '/' else c) = ("/".intercalate names).toList := by
  have hkept {name : String} (hname : IsPackageName name) :
      (name.toList.map fun c => if c == '.' then '/' else c) = name.toList := by
    refine (List.map_congr_left fun c hc => ?_).trans (List.map_id _)
    have hdot : c ≠ '.' := fun hdot => hname.noDot (hdot ▸ hc)
    simp [hdot]
  induction names with
  | nil => rfl
  | cons name names ih =>
    obtain ⟨hname, hnames⟩ := List.forall_mem_cons.mp h
    cases names with
    | nil =>
      rw [String.intercalate_singleton, String.intercalate_singleton, hkept hname]
    | cons next names =>
      rw [String.intercalate_cons_cons, String.intercalate_cons_cons, String.toList_append, String.toList_append,
        String.toList_append, String.toList_append, List.map_append, List.map_append, ih hnames, hkept hname]
      rfl

/-- Names joined by dots end in something other than a dot. -/
theorem exists_getLast?_intercalate {names : List String} (hne : names ≠ []) (h : ∀ name ∈ names, IsPackageName name) :
    ∃ c, (".".intercalate names).toList.getLast? = some c ∧ c ≠ '.' := by
  induction names with
  | nil => exact absurd rfl hne
  | cons name names ih =>
    obtain ⟨hname, hnames⟩ := List.forall_mem_cons.mp h
    cases names with
    | nil =>
      rw [String.intercalate_singleton]
      have hchars : name.toList ≠ [] := by
        simpa using hname.ne_empty
      refine ⟨_, List.getLast?_eq_some_getLast hchars, ?_⟩
      intro hdot
      exact hname.noDot (hdot ▸ List.getLast_mem hchars)
    | cons next names =>
      obtain ⟨c, hc, hdot⟩ := ih (by simp) hnames
      refine ⟨c, ?_, hdot⟩
      rw [String.intercalate_cons_cons, String.toList_append, List.getLast?_append, hc]
      rfl

/-- **The directory of a package has its names**, however many dots there are behind them. -/
theorem segments_packageDirectory {names : List String} (hne : names ≠ []) (h : ∀ name ∈ names, IsPackageName name)
    (dots : Nat) : (packageDirectory (".".intercalate names ++ String.ofList (List.replicate dots '.'))).segments = names := by
  have htrimmed : ((".".intercalate names ++ String.ofList (List.replicate dots '.')).toList.reverse.dropWhile
      (· == '.')).reverse = (".".intercalate names).toList := by
    obtain ⟨c, hc, hdot⟩ := exists_getLast?_intercalate hne h
    obtain ⟨front, hfront⟩ := List.getLast?_eq_some_iff.mp hc
    rw [String.toList_append, String.toList_ofList, List.reverse_append, List.reverse_replicate,
      List.dropWhile_append_of_pos (by simp), hfront]
    simp [hdot]
  unfold packageDirectory
  rw [htrimmed, map_intercalate_dots h, String.ofList_toList]
  exact Path.segments_intercalate hne fun name hname => (h name hname).noSlash

namespace LaunchPlugin

/-- The directories of the plugin: those of its packages, and those of its resources. -/
def directories (p : LaunchPlugin) : List Path :=
  p.rootPackages.map packageDirectory ++ [⟨"assets/" ++ p.id⟩, ⟨"data/" ++ p.id⟩, ⟨"META-INF/graft/" ++ p.id⟩]

theorem ownedFronts_eq (p : LaunchPlugin) : p.ownedFronts = p.directories.map fun directory => directory.text ++ "/" := by
  unfold ownedFronts directories
  rw [List.map_append, List.map_map]
  rfl

/-- **A plugin owns the files below its directories.** -/
theorem owns_iff_holds (hfile : name.toList.getLast? ≠ some '/') :
    p.owns name = true ↔ ∃ directory ∈ p.directories, directory.Holds name := by
  unfold owns
  rw [ownedFronts_eq, List.any_map, List.any_eq_true]
  refine exists_congr fun directory => and_congr_right fun _ => ?_
  rw [Function.comp, List.isPrefixOf_iff_prefix, String.toList_append]
  exact Path.slash_prefix_iff_holds hfile

end LaunchPlugin

/-- A name that goes on with other letters behind a directory's spelling is not below the directory. -/
theorem Path.not_holds_of_ne_slash {directory : Path} {c : Char} {rest : List Char} (hc : c ≠ '/')
    (hname : name.toList = directory.text.toList ++ c :: rest) : ¬directory.Holds name := by
  rintro ⟨between, last, hsegments, -⟩
  obtain ⟨back, hback, -⟩ := Path.exists_toList_of_segments (by simp) hsegments
  rw [hname, List.append_cancel_left_eq, List.cons.injEq] at hback
  exact hc hback.1

/-! ## Files in archives -/

/-- Whether an entry is a file: directories have no content, or a slash at the end of their names. -/
def ArchiveEntry.isFile (e : ArchiveEntry) : Bool :=
  e.content.isSome && e.name.toList.getLast? != some '/'

/-- The names of the files in an archive, in its order. -/
def Archive.files (a : Archive) : List String :=
  (a.entries.filter ArchiveEntry.isFile).map ArchiveEntry.name

/-- The files in the archive that a file may be. -/
def filesOf (t : FileTree) (path : Path) : List (Path × String) :=
  match archiveAt? t path with
  | some a => a.files.map fun name => (path, name)
  | none => []

/-- The files in all archives under the root, archive by archive. -/
def archiveFiles (t : FileTree) (root : Path) : List (Path × String) :=
  (candidateArchives t root).flatMap (filesOf t)

/-- What becomes of a file: the first owner has it. -/
def ownedFile? (plugins : List LaunchPlugin) (file : Path × String) : Option AttributedEntry :=
  (plugins.find? (·.owns file.2)).map fun p => ⟨file.1, file.2, p.id⟩

theorem Archive.attributed_eq (a : Archive) (path : Path) (plugins : List LaunchPlugin) :
    a.attributed path plugins = (a.files.map fun name => (path, name)).filterMap (ownedFile? plugins) := by
  unfold attributed files
  rw [List.filterMap_map, List.filterMap_map, List.filterMap_filter]
  refine List.filterMap_congr fun e _ => ?_
  by_cases hfile : e.isFile = true
  · rw [if_pos hfile, if_neg]
    · rfl
    · simpa [ArchiveEntry.isFile, Option.isSome_iff_ne_none] using hfile
  · rw [if_neg hfile, if_pos]
    simpa [ArchiveEntry.isFile, Option.isSome_iff_ne_none, Decidable.or_iff_not_imp_left] using hfile

theorem attributedEntries_eq (plugins : List LaunchPlugin) (t : FileTree) (root : Path) :
    attributedEntries plugins t root = (archiveFiles t root).filterMap (ownedFile? plugins) := by
  unfold attributedEntries archiveFiles
  rw [List.filterMap_flatMap]
  refine List.flatMap_congr fun path _ => ?_
  unfold filesOf
  cases archiveAt? t path with
  | none => rfl
  | some a => exact a.attributed_eq path plugins

/-- The entries are the files that some plugin owns, in their order and as often as they are listed, and each belongs to
the first plugin that owns it. -/
structure Attributed (plugins : List LaunchPlugin) (files : List (Path × String)) (entries : List AttributedEntry) :
    Prop where
  files : entries.map (fun e => (e.archive, e.entry)) = files.filter fun file => plugins.any (·.owns file.2)
  owners : ∀ e ∈ entries, ∃ before p after, plugins = before ++ p :: after ∧ e.pluginId = p.id ∧
    p.owns e.entry = true ∧ ∀ q ∈ before, q.owns e.entry = false

/-- **Every owned file is attributed to its first owner.** -/
theorem attributed_attributedEntries (plugins : List LaunchPlugin) (t : FileTree) (root : Path) :
    Attributed plugins (archiveFiles t root) (attributedEntries plugins t root) := by
  rw [attributedEntries_eq]
  constructor
  · rw [List.map_filterMap, ← List.filterMap_eq_filter]
    refine List.filterMap_congr fun file _ => ?_
    unfold ownedFile?
    cases howner : plugins.find? (·.owns file.2) with
    | none =>
      have hany : plugins.any (·.owns file.2) = false := by
        simpa using howner
      simp [Option.guard, hany]
    | some p =>
      have howns := List.find?_some howner
      have hany : plugins.any (·.owns file.2) = true :=
        List.any_eq_true.mpr ⟨p, List.mem_of_find?_eq_some howner, howns⟩
      simp [Option.guard, hany]
  · intro e he
    obtain ⟨file, -, hattributed⟩ := List.mem_filterMap.mp he
    obtain ⟨p, howner, rfl⟩ := Option.map_eq_some_iff.mp hattributed
    obtain ⟨howns, before, after, hsplit, hbefore⟩ := List.find?_eq_some_iff_append.mp howner
    exact ⟨before, p, after, hsplit, rfl, howns, fun q hq => by simpa using hbefore q hq⟩

/-- The files do not end in slashes. -/
theorem getLast?_of_mem_archiveFiles {file : Path × String} (h : file ∈ archiveFiles t root) :
    file.2.toList.getLast? ≠ some '/' := by
  obtain ⟨path, -, hmem⟩ := List.mem_flatMap.mp h
  unfold filesOf at hmem
  split at hmem
  · obtain ⟨name, hname, rfl⟩ := List.mem_map.mp hmem
    obtain ⟨e, he, rfl⟩ := List.mem_map.mp hname
    have hisFile := (List.mem_filter.mp he).2
    simp only [ArchiveEntry.isFile, Bool.and_eq_true, bne_iff_ne] at hisFile
    exact hisFile.2
  · cases hmem

/-- **No file is listed twice**, as far as archives list no file twice. -/
theorem nodup_archiveFiles (ht : t.WellFormed)
    (harchives : ∀ path ∈ candidateArchives t root, ∀ a, archiveAt? t path = some a → a.files.Nodup) :
    (archiveFiles t root).Nodup := by
  have hpath {path : Path} {file : Path × String} (h : file ∈ filesOf t path) : file.1 = path := by
    unfold filesOf at h
    split at h
    · obtain ⟨name, -, rfl⟩ := List.mem_map.mp h
      rfl
    · cases h
  unfold archiveFiles
  rw [List.nodup_flatMap]
  refine ⟨fun path hmem => ?_, (nodup_candidateArchives ht).imp fun hne file hfile hfile' => ?_⟩
  · unfold filesOf
    split
    · rename_i a ha
      refine List.pairwise_map.mpr ((harchives path hmem a ha).imp fun hne heq => hne ?_)
      simpa using heq
    · exact List.nodup_nil
  · exact hne ((hpath hfile).symm.trans (hpath hfile'))

/-- **Files in archives are attributed exactly.** The entries are the files that have an owner among the plugins, archive by
archive in the order of the candidates, each with its first owner; and none is there twice. A plugin owns the files below
its directories and no others. The directory of a package has the names of the package, whatever dots are behind them, and
what only goes on with other letters behind it is not below it. -/
theorem attributedEntries_exact (plugins : List LaunchPlugin) (t : FileTree) (root : Path) :
    Attributed plugins (archiveFiles t root) (attributedEntries plugins t root) ∧
      (t.WellFormed → (∀ path ∈ candidateArchives t root, ∀ a, archiveAt? t path = some a → a.files.Nodup) →
        ((attributedEntries plugins t root).map fun e => (e.archive, e.entry)).Nodup) ∧
      (∀ file ∈ archiveFiles t root, ∀ p ∈ plugins,
        p.owns file.2 = true ↔ ∃ directory ∈ p.directories, directory.Holds file.2) ∧
      (∀ (names : List String) (dots : Nat), names ≠ [] → (∀ name ∈ names, IsPackageName name) →
        (packageDirectory (".".intercalate names ++ String.ofList (List.replicate dots '.'))).segments = names) ∧
      ∀ (package name : String) (c : Char) (rest : List Char), c ≠ '/' →
        name.toList = (packageDirectory package).text.toList ++ c :: rest → ¬(packageDirectory package).Holds name := by
  have hattributed := attributed_attributedEntries plugins t root
  refine ⟨hattributed, fun ht harchives => ?_, fun file hfile p _ => ?_, fun names dots hne h => ?_,
    fun package name c rest hc hname => ?_⟩
  · rw [hattributed.files]
    exact (nodup_archiveFiles ht harchives).filter _
  · exact LaunchPlugin.owns_iff_holds (getLast?_of_mem_archiveFiles hfile)
  · exact segments_packageDirectory hne h dots
  · exact Path.not_holds_of_ne_slash hc hname

/-! ## A package inside another one -/

/-- A plugin with packages and nothing else. -/
def packaged (id : String) (packages : List String) : LaunchPlugin where
  metadata := ⟨id, "1", id, none, none, none, none, []⟩
  transformers := []
  rootPackages := packages
  objection := fun e => (none, e)

/-- Files of two packages, one inside the other, and others. -/
def mixedEntries : Archive where
  entries := [⟨"com/example/", none⟩, ⟨"com/example/inner/A.class", some []⟩, ⟨"com/example/B.class", some []⟩,
    ⟨"com/examples/C.class", some []⟩, ⟨"assets/outer/com/D.png", some []⟩]
  readable := true

/-- A root with one archive. -/
def mixedArchive : FileTree where
  nodes := [(["r"], .directory), (["r", "plugins"], .directory),
    (["r", "plugins", "mods.jar"], .file (.archive mixedEntries))]
  workingDirectory := []

/-- The package of one plugin is inside that of the other one, which comes second and gets the rest of it. -/
theorem attributedEntries_exact_mixedArchive :
    attributedEntries [packaged "inner" ["com.example.inner.."], packaged "outer" ["com.example"]] mixedArchive ⟨"r"⟩ =
        [⟨⟨"r/plugins/mods.jar"⟩, "com/example/inner/A.class", "inner"⟩,
          ⟨⟨"r/plugins/mods.jar"⟩, "com/example/B.class", "outer"⟩,
          ⟨⟨"r/plugins/mods.jar"⟩, "assets/outer/com/D.png", "outer"⟩] ∧
      mixedArchive.WellFormed ∧
      ((attributedEntries [packaged "inner" ["com.example.inner.."], packaged "outer" ["com.example"]] mixedArchive
        ⟨"r"⟩).map fun e => (e.archive, e.entry)).Nodup ∧
      (packageDirectory "com.example.inner..").segments = ["com", "example", "inner"] ∧
      ¬(packageDirectory "com.example").Holds "com/examples/C.class" := by
  obtain ⟨-, hnodup, -, hnames, hletters⟩ := attributedEntries_exact
    [packaged "inner" ["com.example.inner.."], packaged "outer" ["com.example"]] mixedArchive ⟨"r"⟩
  have ht : mixedArchive.WellFormed := by decide +kernel
  have hcandidates : candidateArchives mixedArchive ⟨"r"⟩ = [⟨"r/plugins/mods.jar"⟩] := by decide +kernel
  have harchive : archiveAt? mixedArchive ⟨"r/plugins/mods.jar"⟩ = some mixedEntries := by decide +kernel
  have hspelled : ".".intercalate ["com", "example", "inner"] ++ String.ofList (List.replicate 2 '.') =
      "com.example.inner.." := by decide +kernel
  refine ⟨by decide +kernel, ht, hnodup ht fun path hpath a ha => ?_, ?_, ?_⟩
  · rw [hcandidates, List.mem_singleton] at hpath
    rw [hpath, harchive] at ha
    cases ha
    decide +kernel
  · rw [← hspelled]
    refine hnames ["com", "example", "inner"] 2 (by decide) ?_
    simp only [List.forall_mem_cons]
    exact ⟨⟨by decide, by decide, by decide⟩, ⟨by decide, by decide, by decide⟩, ⟨by decide, by decide, by decide⟩, nofun⟩
  · exact hletters "com.example" _ 's' "/C.class".toList (by decide) (by decide +kernel)

end ClassWeaver
