import ClassWeaver.Plugin.Discovery
import ClassWeaver.Proofs.Files.Listing

/-!
# Files that may be archives

Archives are looked for in two directories, and in the directories right below these. The files come in the order of their
names, compared name by name: what a directory lists comes where its name comes, and so do the files in it. No file is come
across twice: a directory lists each name once, and files of different directories are at different places. So what is done
for every candidate is done once for every file.

## Contents

* `shownBy`, `mem_filesWithin_iff`, `pairwise_filesWithin`, `nodup_filesWithin` — the files that a directory and those right
  below it show.
* `filesUnder`, `candidateArchives_eq` — the candidates of one of the directories.
* `FilesNear`, `filesNear_iff`, `Candidates`, `candidates_iff` — the candidates without the search for them.
* `map_place_candidateArchives`, `nodup_candidateArchives` — the places of the candidates.
-/

namespace ClassWeaver

open ClassWeaver.Path (IsEntryName)

variable {t : FileTree} {place : Location} {root : Path} {name : String} {names : List String}

/-! ## One directory -/

/-- The name of a file; directories have none. -/
def fileName? : String × Node → Option String
  | (name, .file _) => some name
  | (_, .directory) => none

/-- The files that a directory shows for one thing in it: the thing itself, or the files in it. -/
def shownBy (t : FileTree) (place : Location) (entry : String × Node) : List (List String) :=
  match entry.2 with
  | .file _ => [[entry.1]]
  | .directory => ((t.children (place ++ [entry.1])).filterMap fileName?).map fun inner => [entry.1, inner]

theorem filesWithin_eq (t : FileTree) (place : Location) :
    filesWithin t place = (t.children place).flatMap (shownBy t place) := by
  refine List.flatMap_congr fun entry _ => ?_
  obtain ⟨name, _ | content⟩ := entry
  · unfold shownBy
    rw [List.map_filterMap]
    refine List.filterMap_congr fun entry _ => ?_
    obtain ⟨inner, _ | content⟩ := entry
    · rfl
    · rfl
  · rfl

theorem head?_of_mem_shownBy {entry : String × Node} (h : names ∈ shownBy t place entry) : names.head? = some entry.1 := by
  unfold shownBy at h
  split at h
  · rw [List.mem_singleton.mp h]
    rfl
  · obtain ⟨inner, -, rfl⟩ := List.mem_map.mp h
    rfl

theorem mem_filterMap_fileName? (ht : t.WellFormed) : name ∈ (t.children place).filterMap fileName? ↔
    (t.contentAt? (place ++ [name])).isSome = true := by
  rw [List.mem_filterMap, Option.isSome_iff_exists]
  constructor
  · rintro ⟨⟨found, _ | content⟩, hentry, hname⟩
    · cases hname
    · cases hname
      exact ⟨content, FileTree.contentAt?_eq_some_iff.mpr ((FileTree.mem_children_iff ht).mp hentry)⟩
  · rintro ⟨content, hcontent⟩
    exact ⟨(name, .file content), (FileTree.mem_children_iff ht).mpr (FileTree.contentAt?_eq_some_iff.mp hcontent), rfl⟩

/-- **A directory and those right below it show the files one or two names down**, and no others. -/
theorem mem_filesWithin_iff (ht : t.WellFormed) : names ∈ filesWithin t place ↔
    (names.length = 1 ∨ names.length = 2) ∧ (t.contentAt? (place ++ names)).isSome = true := by
  rw [filesWithin_eq, List.mem_flatMap]
  constructor
  · rintro ⟨⟨name, _ | content⟩, hentry, hshown⟩
    · obtain ⟨inner, hinner, rfl⟩ := List.mem_map.mp hshown
      have hcontent := (mem_filterMap_fileName? ht).mp hinner
      rw [List.append_assoc] at hcontent
      exact ⟨.inr rfl, hcontent⟩
    · rw [List.mem_singleton.mp hshown, Option.isSome_iff_exists]
      exact ⟨.inl rfl, content, FileTree.contentAt?_eq_some_iff.mpr ((FileTree.mem_children_iff ht).mp hentry)⟩
  · rintro ⟨hlength | hlength, hcontent⟩
    · obtain ⟨name, rfl⟩ := List.length_eq_one_iff.mp hlength
      obtain ⟨content, hcontent⟩ := Option.isSome_iff_exists.mp hcontent
      have hentry := (FileTree.mem_children_iff ht).mpr (FileTree.contentAt?_eq_some_iff.mp hcontent)
      exact ⟨(name, .file content), hentry, List.mem_singleton_self _⟩
    · obtain ⟨name, inner, rfl⟩ := List.length_eq_two.mp hlength
      have hinside : (t.contentAt? (place ++ [name] ++ [inner])).isSome = true := by
        rw [List.append_assoc]
        exact hcontent
      -- the file stands in a directory, which is right below
      obtain ⟨content, hheld⟩ := Option.isSome_iff_exists.mp hinside
      have hnode := FileTree.contentAt?_eq_some_iff.mp hheld
      have hup := (ht.inDirectory _ inner (by rw [hnode]; rfl)).1
      refine ⟨(name, .directory), (FileTree.mem_children_iff ht).mpr hup, ?_⟩
      exact List.mem_map.mpr ⟨inner, (mem_filterMap_fileName? ht).mpr hinside, rfl⟩

theorem isEntryName_of_mem_filesWithin (ht : t.WellFormed) (h : names ∈ filesWithin t place) :
    ∀ name ∈ names, IsEntryName name := by
  obtain ⟨content, hcontent⟩ := Option.isSome_iff_exists.mp ((mem_filesWithin_iff ht).mp h).2
  have hnode := FileTree.contentAt?_eq_some_iff.mp hcontent
  have hall := ht.isEntryName_of_mem (by rw [hnode]; rfl)
  exact fun name hname => hall name (List.mem_append_right _ hname)

theorem pairwise_filterMap_fileName? (ht : t.WellFormed) : ((t.children place).filterMap fileName?).Pairwise (· < ·) := by
  have hfst {entry : String × Node} {name : String} (h : fileName? entry = some name) : entry.1 = name := by
    obtain ⟨found, _ | content⟩ := entry
    · cases h
    · exact Option.some.inj h
  refine List.pairwise_filterMap.mpr ((FileTree.pairwise_children ht).imp fun hlt name hname name' hname' => ?_)
  rw [← hfst hname, ← hfst hname']
  exact hlt

theorem pairwise_shownBy (ht : t.WellFormed) (entry : String × Node) : (shownBy t place entry).Pairwise (· < ·) := by
  unfold shownBy
  split
  · exact List.pairwise_singleton _ _
  · refine List.pairwise_map.mpr ((pairwise_filterMap_fileName? ht).imp fun hlt => ?_)
    exact List.cons_lt_cons_iff.mpr (.inr ⟨rfl, List.cons_lt_cons_iff.mpr (.inl hlt)⟩)

/-- **The files come in the order of their names**, compared name by name. -/
theorem pairwise_filesWithin (ht : t.WellFormed) : (filesWithin t place).Pairwise (· < ·) := by
  rw [filesWithin_eq, List.pairwise_flatMap]
  refine ⟨fun entry _ => pairwise_shownBy ht entry, (FileTree.pairwise_children ht).imp ?_⟩
  -- the first name tells which thing in the directory shows the file
  intro entry entry' hlt names hnames names' hnames'
  obtain ⟨rest, rfl⟩ := List.head?_eq_some_iff.mp (head?_of_mem_shownBy hnames)
  obtain ⟨rest', rfl⟩ := List.head?_eq_some_iff.mp (head?_of_mem_shownBy hnames')
  exact List.cons_lt_cons_iff.mpr (.inl hlt)

/-- What comes in order comes once. -/
theorem nodup_of_pairwise_lt {files : List (List String)} (h : files.Pairwise (· < ·)) : files.Nodup := by
  refine h.imp fun {names names'} hlt => ?_
  rintro rfl
  exact List.lt_irrefl _ hlt

/-- **A directory and those right below it show each file once.** -/
theorem nodup_filesWithin (ht : t.WellFormed) : (filesWithin t place).Nodup :=
  nodup_of_pairwise_lt (pairwise_filesWithin ht)

/-! ## The candidates -/

/-- The files below the directory of the given name, which is looked for under the root. -/
def filesUnder (t : FileTree) (root : Path) (name : String) : List (List String) :=
  match t.resolve (root.join name) with
  | .ok (.found place .directory) => filesWithin t place
  | _ => []

theorem candidateArchives_eq (t : FileTree) (root : Path) : candidateArchives t root =
    archiveDirectories.flatMap fun name => (filesUnder t root name).map (root.join name).joinAll := by
  refine List.flatMap_congr fun name _ => ?_
  unfold filesUnder
  dsimp only
  match t.resolve (root.join name) with
  | .error _ | .ok (.free _ _) | .ok (.found _ (.file _)) | .ok (.found _ .directory) => rfl

theorem isEntryName_of_mem_filesUnder (ht : t.WellFormed) {directory : String} (h : names ∈ filesUnder t root directory) :
    ∀ name ∈ names, IsEntryName name := by
  unfold filesUnder at h
  split at h
  · exact isEntryName_of_mem_filesWithin ht h
  · cases h

theorem nodup_filesUnder (ht : t.WellFormed) (name : String) : (filesUnder t root name).Nodup := by
  unfold filesUnder
  split
  · exact nodup_filesWithin ht
  · exact List.nodup_nil

/-- The names lead to a file one or two names below the directory that a path leads to. -/
def IsNear (t : FileTree) (directory : Path) (names : List String) : Prop :=
  ∃ place, t.resolve directory = .ok (.found place .directory) ∧ (names.length = 1 ∨ names.length = 2) ∧
    (t.contentAt? (place ++ names)).isSome = true

/-- The files one or two names below a directory, in the order of their names. -/
structure FilesNear (t : FileTree) (directory : Path) (files : List (List String)) : Prop where
  ordered : files.Pairwise (· < ·)
  mem_iff : ∀ names, names ∈ files ↔ IsNear t directory names

theorem mem_filesUnder_iff (ht : t.WellFormed) {directory : String} :
    names ∈ filesUnder t root directory ↔ IsNear t (root.join directory) names := by
  unfold filesUnder IsNear
  split
  · rename_i place hplace
    rw [mem_filesWithin_iff ht]
    constructor
    · exact fun h => ⟨place, hplace, h⟩
    · rintro ⟨other, hother, h⟩
      cases hplace.symm.trans hother
      exact h
  · rename_i hother
    exact iff_of_false List.not_mem_nil fun ⟨place, hplace, _⟩ => hother place hplace

/-- **A directory has one list of files near it.** -/
theorem filesNear_iff (ht : t.WellFormed) {directory : String} {files : List (List String)} :
    FilesNear t (root.join directory) files ↔ files = filesUnder t root directory := by
  have hunder : FilesNear t (root.join directory) (filesUnder t root directory) := by
    refine ⟨?_, fun names => mem_filesUnder_iff ht⟩
    unfold filesUnder
    split
    · exact pairwise_filesWithin ht
    · exact List.Pairwise.nil
  constructor
  · intro h
    have hperm : files.Perm (filesUnder t root directory) :=
      (List.perm_ext_iff_of_nodup (nodup_of_pairwise_lt h.ordered) (nodup_of_pairwise_lt hunder.ordered)).mpr
        fun names => (h.mem_iff names).trans (hunder.mem_iff names).symm
    exact hperm.eq_of_pairwise (fun names names' _ _ hlt hlt' => absurd hlt' (List.lt_asymm hlt)) h.ordered hunder.ordered
  · rintro rfl
    exact hunder

/-- The files near a directory are those of all files below it that are not too deep, brought into order. -/
theorem filesNear_iff_perm (ht : t.WellFormed) {directory : Path} (hp : t.resolve directory = .ok (.found place .directory))
    {files : List (List String)} : FilesNear t directory files ↔ files.Pairwise (· < ·) ∧
      files.Perm ((t.filesBelow place).filter fun names => names.length = 1 ∨ names.length = 2) := by
  have hnear (names : List String) : IsNear t directory names ↔
      names ∈ (t.filesBelow place).filter fun names => names.length = 1 ∨ names.length = 2 := by
    rw [List.mem_filter, FileTree.mem_filesBelow_iff ht, decide_eq_true_iff]
    constructor
    · rintro ⟨other, hother, hlength, hcontent⟩
      cases hp.symm.trans hother
      exact ⟨hcontent, hlength⟩
    · exact fun ⟨hcontent, hlength⟩ => ⟨place, hp, hlength, hcontent⟩
  have hnodup : ((t.filesBelow place).filter fun names => names.length = 1 ∨ names.length = 2).Nodup :=
    (FileTree.nodup_filesBelow ht).filter _
  constructor
  · intro h
    refine ⟨h.ordered, (List.perm_ext_iff_of_nodup (nodup_of_pairwise_lt h.ordered) hnodup).mpr fun names => ?_⟩
    exact (h.mem_iff names).trans (hnear names)
  · exact fun ⟨hordered, hperm⟩ => ⟨hordered, fun names => hperm.mem_iff.trans (hnear names).symm⟩

/-- The files that may be archives: those near one directory, then those near the other one. -/
def Candidates (t : FileTree) (root : Path) (paths : List Path) : Prop :=
  ∃ plugins launchPlugins, FilesNear t (root.join "plugins") plugins ∧
    FilesNear t (root.join "launch-plugins") launchPlugins ∧
    paths = plugins.map (root.join "plugins").joinAll ++ launchPlugins.map (root.join "launch-plugins").joinAll

/-- **The candidates are found**, all of them and in their order. -/
theorem candidates_iff (ht : t.WellFormed) {paths : List Path} :
    Candidates t root paths ↔ paths = candidateArchives t root := by
  have htwo : candidateArchives t root = (filesUnder t root "plugins").map (root.join "plugins").joinAll ++
      (filesUnder t root "launch-plugins").map (root.join "launch-plugins").joinAll := by
    rw [candidateArchives_eq, archiveDirectories, List.flatMap_cons, List.flatMap_singleton]
  rw [htwo]
  constructor
  · rintro ⟨plugins, launchPlugins, hplugins, hlaunchPlugins, rfl⟩
    rw [(filesNear_iff ht).mp hplugins, (filesNear_iff ht).mp hlaunchPlugins]
  · rintro rfl
    exact ⟨_, _, (filesNear_iff ht).mpr rfl, (filesNear_iff ht).mpr rfl, rfl⟩

theorem isEntryName_of_mem_archiveDirectories {name : String} (h : name ∈ archiveDirectories) : IsEntryName name := by
  revert name
  decide

/-- **The places of the candidates** are below the directories, under the names that these show. -/
theorem map_place_candidateArchives (ht : t.WellFormed) :
    (candidateArchives t root).map (Path.place t.workingDirectory) =
      archiveDirectories.flatMap fun name =>
        (filesUnder t root name).map fun names => root.place t.workingDirectory ++ name :: names := by
  rw [candidateArchives_eq, List.map_flatMap]
  refine List.flatMap_congr fun name hname => ?_
  rw [List.map_map]
  refine List.map_congr_left fun names hnames => ?_
  rw [Function.comp, Path.place_joinAll (isEntryName_of_mem_filesUnder ht hnames),
    Path.place_join_entry (isEntryName_of_mem_archiveDirectories hname), List.append_assoc]
  rfl

/-- **No file is a candidate twice.** -/
theorem nodup_candidateArchives (ht : t.WellFormed) : (candidateArchives t root).Nodup := by
  refine List.Nodup.of_map (Path.place t.workingDirectory) ?_
  rw [map_place_candidateArchives ht, List.nodup_flatMap]
  constructor
  · intro name _
    refine List.pairwise_map.mpr ((nodup_filesUnder ht name).imp fun hne heq => hne ?_)
    simpa using heq
  · have hdirectories : archiveDirectories.Nodup := by decide
    refine hdirectories.imp fun hne place hplace hplace' => hne ?_
    obtain ⟨names, -, rfl⟩ := List.mem_map.mp hplace
    obtain ⟨names', -, heq⟩ := List.mem_map.mp hplace'
    exact (List.cons.inj (List.append_cancel_left heq)).1.symm

end ClassWeaver
