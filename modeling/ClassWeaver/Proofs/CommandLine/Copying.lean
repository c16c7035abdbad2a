import ClassWeaver.Proofs.CommandLine.ClassPaths
import ClassWeaver.Proofs.CommandLine.Walks
import ClassWeaver.Proofs.Files.Changes
import ClassWeaver.Proofs.Registry.Loading

/-!
# Copying without plugins

Without plugins, transforming a directory is copying it. What decides whether anything is touched is the order of the steps:
plugins are looked for before anything is written, so a type that nobody knows leaves all files as they are. From then on
the documents are written below the root, and each file of the input is written once, to the same names below the output.

## Contents

* `Apart` — places of which neither is below the other.
* `Bypasses` — engines that let every class pass.
* `transformOne_eq_ok`, `CopyReady.mapM_transformOne_eq_ok`, `CopyReady.forFilesBelow_eq_ok` — one file, a row of files, and a
  walk.
* `discover_empty_eq_ok`, `accept_nil_eq_ok` — what comes before the first file.
* `transformTree_of_named`, `copied_of_transformTree` — the command.
* `runProgram_copies` — the whole program.
-/

namespace ClassWeaver

open FileTree
open ClassWeaver.Path (IsEntryName)

/-- Two places of which neither is below the other. -/
def Apart (place other : Location) : Prop :=
  ¬place <+: other ∧ ¬other <+: place

instance (place other : Location) : Decidable (Apart place other) :=
  inferInstanceAs (Decidable (_ ∧ _))

theorem Apart.not_prefix_append {place other : Location} (h : Apart place other) (names : List String) :
    ¬place <+: other ++ names :=
  fun hplace => (List.prefix_or_prefix_of_prefix hplace (List.prefix_append other names)).elim h.1 h.2

/-- What is below one of two places is not what is below the other. -/
theorem Apart.append_ne {place other : Location} (h : Apart place other) (names names' : List String) :
    place ++ names ≠ other ++ names' :=
  fun heq => h.not_prefix_append names' (heq ▸ List.prefix_append place names)

/-- The empty catalog has no plugin of any type. -/
theorem PluginCatalog.make_empty (typeName : String) (origin : PluginOrigin) :
    PluginCatalog.empty.make typeName origin = .error (.unknownType typeName origin) :=
  rfl

/-- No file belongs to no plugins. -/
theorem attributedEntries_nil (t : FileTree) (root : Path) : attributedEntries [] t root = [] := by
  unfold attributedEntries
  rw [List.flatMap_eq_nil_iff]
  intro path _
  cases archiveAt? t path with
  | none => rfl
  | some a =>
    dsimp only
    unfold Archive.attributed
    rw [List.filterMap_eq_nil_iff]
    intro e _
    rw [List.find?_nil, Option.map_none, ite_self]

namespace Running

variable {engine : Engine} {input output root : Path} {names : List String} {files : List (List String)} {s s' : Session}
  {t t' : FileTree} {classpath : List Path}

/-! ## Steps of runs -/

theorem ofResult_eq_ok {ε α : Type} {failure : ε → CommandFailure} {result : Except ε α} {x : α} :
    ofResult failure result s = (.ok x, s') ↔ result = .ok x ∧ s = s' := by
  cases result with
  | error e => exact iff_of_false nofun nofun
  | ok y =>
    show (Except.ok y, s) = _ ↔ _
    rw [Prod.mk.injEq, Except.ok.injEq, Except.ok.injEq]

theorem onFiles_eq_ok {verb : String} {p : Path} {action : FileAction Unit} :
    onFiles verb p action s = (.ok (), s') ↔ action s.files = (.ok (), s'.files) ∧ s'.printed = s.printed := by
  show ((action s.files).1.mapError _, { s with files := (action s.files).2 }) = _ ↔ _
  rw [Prod.mk.injEq, except_mapError_eq_ok, Prod.ext_iff]
  constructor
  · rintro ⟨hresult, rfl⟩
    exact ⟨⟨hresult, rfl⟩, rfl⟩
  · rintro ⟨⟨hresult, hfiles⟩, hprinted⟩
    obtain ⟨files, printed⟩ := s'
    cases hfiles
    cases hprinted
    exact ⟨hresult, rfl⟩

/-! ## Classes that pass -/

/-- An engine that lets every class pass as it is. -/
def Bypasses (engine : Engine) : Prop :=
  ∀ table className bytes files, (engine.transform table className bytes files).result = .ok (bytes, .bypassed) ∧
    (engine.transform table className bytes files).files = files

/-- **An engine without transformers lets every class pass**, in an emergency and otherwise. -/
theorem bypasses_of_no_transformers {b : Blackboard} {config : EngineConfig} (h : b.transformers = []) :
    Bypasses (Engine.new.accept b config) := by
  intro table className bytes files
  unfold Engine.accept Engine.transform
  dsimp only
  have hpasses : (Accepted.mk b config none).passes? table className = none := by
    unfold Accepted.passes? Accepted.getIndex
    dsimp only
    rw [h]
    cases (table.lookup className).bind table.get? with
    | none => rfl
    | some d => rfl
  by_cases hemergency : config.switches.emergencyMode = true
  · rw [if_pos hemergency]
    exact ⟨rfl, rfl⟩
  · rw [if_neg hemergency, hpasses]
    exact ⟨rfl, rfl⟩

/-- A class that passes is copied, whatever its file holds. -/
theorem transformFile_eq_ok {source destination : Path} {className : String} {outcome : Outcome} (hengine : Bypasses engine)
    (h : transformFile engine source destination className s = (.ok outcome, s')) :
    outcome = .bypassed ∧ s'.printed = s.printed ∧ ∃ content, s.files.read source = .ok content ∧
      FileAction.write destination content s.files = (.ok (), s'.files) := by
  unfold transformFile at h
  rw [Edits.get_bind] at h
  obtain ⟨content, u, hstep, hbehind⟩ := Edits.bind_eq_ok.mp h
  obtain ⟨hread, rfl⟩ := ofResult_eq_ok.mp hstep
  obtain ⟨hresult, hfiles⟩ := hengine engine.targetTable className (Content.classBytes content) s.files
  rw [Edits.get_bind] at hbehind
  dsimp only at hbehind
  rw [Edits.set_bind, hresult, hfiles] at hbehind
  obtain ⟨answer, v, hanswer, hbehind⟩ := Edits.bind_eq_ok.mp hbehind
  obtain ⟨hanswer, rfl⟩ := ofResult_eq_ok.mp hanswer
  cases hanswer
  obtain ⟨⟨⟩, w, hwrite, hlast⟩ := Edits.bind_eq_ok.mp hbehind
  obtain ⟨rfl, rfl⟩ := Edits.pure_eq_ok.mp hlast
  obtain ⟨hwrite, hprinted⟩ := onFiles_eq_ok.mp hwrite
  exact ⟨rfl, hprinted, content, hread, hwrite⟩

/-! ## One file -/

/-- **What a visit to a file does**: the file is copied to the same names below the output, no other file is touched, nothing
is printed, and the visit is counted if the file is taken for a class. -/
theorem transformOne_eq_ok {outcomes : List Outcome} (hengine : Bypasses engine) (hne : names ≠ [])
    (hnames : ∀ name ∈ names, IsEntryName name)
    (hapart : Apart (input.place s.files.workingDirectory) (output.place s.files.workingDirectory))
    (h : transformOne engine input output names s = (.ok outcomes, s')) :
    (∃ content, s.files.contentAt? (input.place s.files.workingDirectory ++ names) = some content ∧
        s'.files.contentAt? (output.place s.files.workingDirectory ++ names) = some content) ∧
      s.files.Spares (· = output.place s.files.workingDirectory ++ names) s'.files ∧ s'.printed = s.printed ∧
        outcomes = if NamesClass names then [.bypassed] else [] := by
  have hsource : (input.join ("/".intercalate names)).place s.files.workingDirectory =
      input.place s.files.workingDirectory ++ names := Path.place_join_names hne hnames
  have hdestination : (output.join ("/".intercalate names)).place s.files.workingDirectory =
      output.place s.files.workingDirectory ++ names := Path.place_join_names hne hnames
  unfold transformOne at h
  obtain ⟨⟨⟩, u, hparents, hbehind⟩ := Edits.bind_eq_ok.mp h
  obtain ⟨hparents, hprinted⟩ := onFiles_eq_ok.mp hparents
  have hspares := FileAction.makeParents_spares (output.join ("/".intercalate names)) s.files
  rw [hparents] at hspares
  have hworking := hspares.workingDirectory
  -- both kinds of files are read and written, each in its own way
  have hcopied : s'.printed = u.printed ∧ (outcomes = if NamesClass names then [.bypassed] else []) ∧
      ∃ content, u.files.read (input.join ("/".intercalate names)) = .ok content ∧
        FileAction.write (output.join ("/".intercalate names)) content u.files = (.ok (), s'.files) := by
    cases hclass : classNameOf? names with
    | none =>
      have hother : ¬NamesClass names := by
        rw [← isSome_classNameOf?_iff, hclass]
        exact nofun
      rw [hclass] at hbehind
      obtain ⟨⟨⟩, v, hcopy, hlast⟩ := Edits.bind_eq_ok.mp hbehind
      obtain ⟨rfl, rfl⟩ := Edits.pure_eq_ok.mp hlast
      obtain ⟨hcopy, hprinted'⟩ := onFiles_eq_ok.mp hcopy
      rw [if_neg hother]
      refine ⟨hprinted', rfl, FileAction.copy_eq_ok hcopy ?_⟩
      rw [hworking, hsource, hdestination]
      exact hapart.append_ne names names
    | some className =>
      have hother : NamesClass names := by
        rw [← isSome_classNameOf?_iff, hclass]
        rfl
      rw [hclass] at hbehind
      obtain ⟨outcome, v, hclassFile, hlast⟩ := Edits.bind_eq_ok.mp hbehind
      obtain ⟨rfl, rfl⟩ := Edits.pure_eq_ok.mp hlast
      obtain ⟨rfl, hprinted', hwritten⟩ := transformFile_eq_ok hengine hclassFile
      rw [if_pos hother]
      exact ⟨hprinted', rfl, hwritten⟩
  obtain ⟨hprinted', houtcomes, content, hread, hwrite⟩ := hcopied
  refine ⟨⟨content, ?_, ?_⟩, ?_, hprinted'.trans hprinted, houtcomes⟩
  · obtain ⟨place, hresolve⟩ := read_eq_ok.mp hread
    have hplace : place = input.place s.files.workingDirectory ++ names := by
      rw [← hsource, ← hworking, ← place_of_resolve hresolve]
      rfl
    rw [← hplace, ← hspares.content place id]
    exact contentAt?_eq_some_iff.mpr (node?_of_resolve hresolve)
  · rw [← hdestination, ← hworking]
    exact FileAction.contentAt?_of_write hwrite
  · have hspares' := (FileAction.write_eq_ok hwrite).1
    rw [hworking, hdestination] at hspares'
    exact (hspares.mono fun _ => False.elim).of_spares hspares'

/-! ## All files -/

/-- An engine that lets every class pass, and a directory to be copied to a place that is apart from it. -/
structure CopyReady (engine : Engine) (input output : Path) (t : FileTree) : Prop where
  bypasses : Bypasses engine
  wellFormed : t.WellFormed
  apart : Apart (input.place t.workingDirectory) (output.place t.workingDirectory)
  noFile : t.contentAt? (input.place t.workingDirectory) = none

/-- **One visit on the way**: the file comes to be what it was when the walk started, and the input stays as it was. -/
theorem CopyReady.transformOne_eq_ok {outcomes : List Outcome} (hready : CopyReady engine input output t)
    (hnames : names ∈ t.filesBelow (input.place t.workingDirectory))
    (hs : SameBelow (input.place t.workingDirectory) t s.files)
    (h : transformOne engine input output names s = (.ok outcomes, s')) :
    SameBelow (input.place t.workingDirectory) t s'.files ∧
      s'.files.contentAt? (output.place t.workingDirectory ++ names) =
        t.contentAt? (input.place t.workingDirectory ++ names) ∧
      s.files.Spares (· = output.place t.workingDirectory ++ names) s'.files ∧ s'.printed = s.printed ∧
        outcomes = if NamesClass names then [.bypassed] else [] := by
  have hfile := (mem_filesBelow_iff hready.wellFormed).mp hnames
  have hne : names ≠ [] := by
    rintro rfl
    rw [List.append_nil, hready.noFile] at hfile
    cases hfile
  have hentries := isEntryName_of_mem_filesBelow hready.wellFormed hnames
  have hapart := hready.apart
  rw [← hs.workingDirectory] at hapart
  obtain ⟨⟨content, hsource, hcopy⟩, hspares, hprinted, houtcomes⟩ :=
    Running.transformOne_eq_ok hready.bypasses hne hentries hapart h
  rw [hs.workingDirectory] at hsource hcopy hspares
  refine ⟨⟨hspares.workingDirectory.trans hs.workingDirectory, hspares.wellFormed hs.wellFormed, fun others => ?_⟩, ?_,
    hspares, hprinted, houtcomes⟩
  · rw [hspares.content _ (hready.apart.append_ne others names)]
    exact hs.content others
  · rw [hcopy, ← hs.content, hsource]

/-- **A row of visits**: all the files are copied, no other file is touched, and the classes among them are counted. -/
theorem CopyReady.mapM_transformOne_eq_ok {outcomes : List (List Outcome)} (hready : CopyReady engine input output t)
    (hnodup : files.Nodup) (hfiles : ∀ names ∈ files, names ∈ t.filesBelow (input.place t.workingDirectory))
    (hs : SameBelow (input.place t.workingDirectory) t s.files)
    (h : files.mapM (transformOne engine input output) s = (.ok outcomes, s')) :
    (∀ names ∈ files, s'.files.contentAt? (output.place t.workingDirectory ++ names) =
        t.contentAt? (input.place t.workingDirectory ++ names)) ∧
      s.files.Spares (fun place => ∃ names ∈ files, place = output.place t.workingDirectory ++ names) s'.files ∧
        s'.printed = s.printed ∧ outcomes.flatten = List.replicate (files.countP fun names => NamesClass names) .bypassed := by
  induction files generalizing s outcomes with
  | nil =>
    obtain ⟨rfl, rfl⟩ := Edits.mapM_nil_eq_ok.mp h
    exact ⟨nofun, .refl _, rfl, rfl⟩
  | cons names files ih =>
    obtain ⟨hnames, hrest⟩ := List.forall_mem_cons.mp hfiles
    obtain ⟨hnew, hnodup⟩ := List.nodup_cons.mp hnodup
    obtain ⟨first, u, later, hfirst, hlater, rfl⟩ := Edits.mapM_cons_eq_ok.mp h
    obtain ⟨hu, hcopy, hspares, hprinted, rfl⟩ := hready.transformOne_eq_ok hnames hs hfirst
    obtain ⟨hcopies, hspares', hprinted', hcount⟩ := ih hnodup hrest hu hlater
    refine ⟨List.forall_mem_cons.mpr ⟨?_, hcopies⟩, ?_, hprinted'.trans hprinted, ?_⟩
    · -- no later visit is to the same names
      rw [hspares'.content, hcopy]
      rintro ⟨others, hothers, heq⟩
      exact hnew (List.append_cancel_left heq ▸ hothers)
    · refine (hspares.mono ?_).of_spares (hspares'.mono ?_)
      · exact fun place hplace => ⟨names, List.mem_cons_self, hplace⟩
      · exact fun place ⟨others, hothers, hplace⟩ => ⟨others, List.mem_cons_of_mem _ hothers, hplace⟩
    · rw [List.flatten_cons, hcount, List.countP_cons]
      by_cases hclass : NamesClass names
      · rw [if_pos hclass, if_pos (by simpa using hclass), List.replicate_succ]
        rfl
      · rw [if_neg hclass, if_neg (by simpa using hclass), Nat.add_zero]
        rfl

/-- How many files below a place are taken for classes. -/
def countClasses (t : FileTree) (place : Location) : Nat :=
  (t.filesBelow place).countP fun names => NamesClass names

/-- **A walk over the input copies it.** -/
theorem CopyReady.forFilesBelow_eq_ok {depth : Nat} {printed : List String} {outcomes : List Outcome}
    (hready : CopyReady engine input output t) (hdepth : t.height ≤ depth)
    (h : forFilesBelow (transformOne engine input output) depth (input.place t.workingDirectory) [] ⟨t, printed⟩ =
      (.ok outcomes, s')) :
    (∀ names ∈ t.filesBelow (input.place t.workingDirectory),
        s'.files.contentAt? (output.place t.workingDirectory ++ names) =
          t.contentAt? (input.place t.workingDirectory ++ names)) ∧
      t.Spares (fun place => ∃ names ∈ t.filesBelow (input.place t.workingDirectory),
        place = output.place t.workingDirectory ++ names) s'.files ∧
        s'.printed = printed ∧ outcomes = List.replicate (countClasses t (input.place t.workingDirectory)) .bypassed := by
  have hvisit : Spared (transformOne engine input output) (input.place t.workingDirectory) t :=
    fun names hnames u results u' hu hvisited => (hready.transformOne_eq_ok hnames hu hvisited).1
  have hstart : SameBelow (input.place t.workingDirectory) t t := ⟨rfl, hready.wellFormed, fun names => rfl⟩
  have hlength : ∀ names, InEntry t (input.place t.workingDirectory) [] names → names.length ≤ 0 + depth := by
    intro names hnames
    have hheight := length_le_of_mem_filesBelow hnames.1
    omega
  have hrow : IsRow (transformOne engine input output) (InEntry t (input.place t.workingDirectory) []) ⟨t, printed⟩
      outcomes s' := by
    refine Running.forFilesBelow_eq_ok hready.wellFormed hvisit ?_ hlength hstart ?_
    · rw [List.append_nil]
      exact hready.noFile
    · rw [List.append_nil]
      exact h
  obtain ⟨files, results, hnodup, hmem, hrun, rfl⟩ := hrow
  have hfiles (names : List String) : names ∈ files ↔ names ∈ t.filesBelow (input.place t.workingDirectory) :=
    (hmem names).trans (and_iff_left List.nil_prefix)
  have hperm : files.Perm (t.filesBelow (input.place t.workingDirectory)) :=
    (List.perm_ext_iff_of_nodup hnodup (nodup_filesBelow hready.wellFormed)).mpr hfiles
  obtain ⟨hcopies, hspares, hprinted, hcount⟩ :=
    hready.mapM_transformOne_eq_ok hnodup (fun names hnames => (hfiles names).mp hnames) hstart hrun
  refine ⟨fun names hnames => hcopies names ((hfiles names).mpr hnames), hspares.mono ?_, hprinted, ?_⟩
  · exact fun place ⟨names, hnames, hplace⟩ => ⟨names, (hfiles names).mp hnames, hplace⟩
  · rw [hcount, hperm.countP_eq, countClasses]

/-! ## Before the first file -/

/-- **Nothing is discovered without a catalog**: discovery succeeds only where no manifest names a type. -/
theorem discover_empty_eq_ok {plugins : List DiscoveredPlugin} (h : discover .empty classpath t root = .ok plugins) :
    plugins = [] ∧ classpathEntries t classpath = .ok [] ∧ scanArchives t root = .ok [] := by
  unfold discover at h
  obtain ⟨entries, hentries, h⟩ := except_bind_eq_ok.mp h
  obtain ⟨ofClasspath, hclasspath, h⟩ := except_bind_eq_ok.mp h
  obtain ⟨manifests, hmanifests, h⟩ := except_bind_eq_ok.mp h
  obtain ⟨ofArchives, harchives, h⟩ := except_bind_eq_ok.mp h
  have hrefused (typeName : String) (origin : PluginOrigin) (d : DiscoveredPlugin) :
      PluginCatalog.empty.make typeName origin ≠ .ok d := by
    rw [PluginCatalog.make_empty]
    exact nofun
  obtain ⟨rfl, rfl⟩ := mapM_eq_ok_of_refused (fun _ d => hrefused _ _ d) hclasspath
  obtain ⟨rfl, rfl⟩ := mapM_eq_ok_of_refused (fun _ d => hrefused _ _ d) harchives
  cases h
  exact ⟨rfl, hentries, hmanifests⟩

/-- Without transformers, loading a configuration touches files below the root only. -/
theorem loadConfig_eq_ok_of_no_transformers [DocumentSyntax] {b b' : Blackboard} {config : EngineConfig} (hb : b.transformers = [])
    (h : b.loadConfig root t = (.ok config, b', t')) :
    b'.transformers = [] ∧ t.Spares (root.place t.workingDirectory <+: ·) t' := by
  unfold Blackboard.loadConfig at h
  rw [hb] at h
  rcases hshared : b.loadShared root t with ⟨failure | found, u⟩
  · rw [hshared] at h
    cases h
  · rw [hshared] at h
    cases h
    have hbelow {file : String} (hfile : IsEntryName file) :
        root.place t.workingDirectory <+: ((root.join configDirectory).join file).place t.workingDirectory := by
      rw [Path.place_join_entry hfile, place_configDirectory, List.append_assoc]
      exact List.prefix_append _ _
    refine ⟨rfl, (loadShared_eq_ok hshared).1.mono fun place hplace => ?_⟩
    rcases hplace with rfl | rfl
    · exact hbelow (by decide)
    · exact hbelow (by decide)

/-- **Accepting no plugins** brings no transformers, and touches files below the root only. -/
theorem accept_nil_eq_ok [DocumentSyntax] {b : Blackboard} {config : EngineConfig}
    (h : accept [] root s = (.ok (b, config), s')) :
    b.transformers = [] ∧ s.files.Spares (root.place s.files.workingDirectory <+: ·) s'.files ∧ s'.printed = s.printed := by
  unfold accept at h
  obtain ⟨accepted, u, haccept, h⟩ := Edits.bind_eq_ok.mp h
  obtain ⟨haccept, rfl⟩ := ofResult_eq_ok.mp haccept
  have hnone : accepted.transformers = [] := by
    cases haccept
    rfl
  unfold loadConfig at h
  rcases hload : accepted.loadConfig root s.files with ⟨failure | found, b', files⟩
  · rw [hload] at h
    cases h
  · rw [hload] at h
    cases h
    obtain ⟨hnone', hspares⟩ := loadConfig_eq_ok_of_no_transformers hnone hload
    exact ⟨hnone', hspares, rfl⟩

/-! ## The command -/

/-- **A type that a manifest names stops the command before it touches a file.** -/
theorem transformTree_of_named [DocumentSyntax]
    (h : ¬(classpathEntries s.files classpath = .ok [] ∧ scanArchives s.files root = .ok [])) :
    ∃ failure, transformTree .empty root input output classpath s = (.error failure, s) := by
  unfold transformTree
  rw [Edits.get_bind]
  by_cases hinput : s.files.isDirectory input = true
  · rw [if_pos hinput]
    cases hfound : discover .empty classpath s.files root with
    | ok plugins => exact absurd (discover_empty_eq_ok hfound).2 h
    | error failure =>
      refine ⟨.discovery failure, ?_⟩
      dsimp only
      rw [Edits.get_bind, hfound]
      rfl
  · rw [if_neg hinput]
    exact ⟨.notDirectory input, rfl⟩

/-- The line that sums up outcomes where no entry of an archive was copied. -/
def summary (outcomes : List Outcome) : String :=
  s!"DONE: {count .transformed outcomes} transformed, {count .noOp outcomes} unchanged, " ++
    s!"{count .bypassed outcomes} untouched, {0} plugin entries copied"

/-- A count of outcomes that are all the same. -/
theorem count_replicate {outcome other : Outcome} {n : Nat} :
    count other (List.replicate n outcome) = if outcome = other then n else 0 := by
  unfold count
  rw [List.filter_replicate]
  by_cases h : outcome = other
  · rw [if_pos h, if_pos (by simpa using h), List.length_replicate]
  · rw [if_neg h, if_neg (by simpa using h)]
    rfl

theorem summary_replicate (n : Nat) : summary (List.replicate n .bypassed) =
    "DONE: 0 transformed, 0 unchanged, " ++ s!"{n} untouched, 0 plugin entries copied" := by
  unfold summary
  rw [count_replicate, count_replicate, count_replicate, if_neg (by decide), if_neg (by decide), if_pos rfl]
  have hfront : s!"DONE: {0} transformed, {0} unchanged, " = "DONE: 0 transformed, 0 unchanged, " := by decide
  have hback : " untouched, " ++ (toString 0 ++ " plugin entries copied") = " untouched, 0 plugin entries copied" := by
    decide
  rw [hfront]
  show _ ++ (toString n ++ " untouched, " ++ toString 0 ++ " plugin entries copied") = _
  rw [String.append_assoc, String.append_assoc, hback]
  rfl

/-- **What a command that succeeds did without a catalog**: nothing was accepted, the input was walked over, and the
outcomes were summed up. -/
theorem transformTree_eq_ok [DocumentSyntax] (h : transformTree .empty root input output classpath s = (.ok (), s')) :
    s.files.isDirectory input = true ∧ classpathEntries s.files classpath = .ok [] ∧ scanArchives s.files root = .ok [] ∧
      ∃ b config u outcomes v, accept [] root s = (.ok (b, config), u) ∧
        forFilesBelow (transformOne (Engine.new.accept b config) input output)
          (2 * u.files.height + output.text.length + 2) ((u.files.placeOf? input).getD []) [] u = (.ok outcomes, v) ∧
        s' = ⟨v.files, v.printed ++ ["", summary outcomes]⟩ := by
  unfold transformTree at h
  rw [Edits.get_bind] at h
  by_cases hinput : s.files.isDirectory input = true
  · rw [if_pos hinput] at h
    dsimp only at h
    rw [Edits.get_bind] at h
    obtain ⟨plugins, u, hplugins, h⟩ := Edits.bind_eq_ok.mp h
    obtain ⟨hfound, rfl⟩ := ofResult_eq_ok.mp hplugins
    obtain ⟨rfl, hclasspath, harchives⟩ := discover_empty_eq_ok hfound
    rw [Edits.get_bind, List.map_nil, attributedEntries_nil] at h
    obtain ⟨⟨b, config⟩, u, haccept, h⟩ := Edits.bind_eq_ok.mp h
    dsimp only at h
    rw [Edits.get_bind] at h
    obtain ⟨outcomes, v, hwalk, h⟩ := Edits.bind_eq_ok.mp h
    refine ⟨hinput, hclasspath, harchives, b, config, u, outcomes, v, haccept, hwalk, ?_⟩
    -- with or without the switch there is no entry to be copied
    have hempty : inArchiveOrder [] = [] := List.mergeSort_nil
    have hprinted (line : String) : v.printed ++ ["", line] = v.printed ++ [""] ++ [line] :=
      List.append_cons v.printed "" [line]
    rw [hempty, List.mapM_nil] at h
    rw [hprinted]
    split at h
    · cases h
      rfl
    · cases h
      rfl
  · rw [if_neg hinput] at h
    cases h

/-- What a tree holds after one of its directories was copied: the files of the input stand below the output, and no other
file was added there or changed anywhere but below the root. -/
structure Copied (root input output : Location) (t t' : FileTree) : Prop where
  copies : ∀ names ∈ t.filesBelow input, t'.contentAt? (output ++ names) = t.contentAt? (input ++ names)
  nothingAdded : ∀ names, names ∉ t.filesBelow input → t'.contentAt? (output ++ names) = t.contentAt? (output ++ names)
  elsewhere : ∀ place, ¬root <+: place → ¬output <+: place → t'.contentAt? place = t.contentAt? place

/-- **A command that succeeds copies its input**, if root, input and output are apart. -/
theorem copied_of_transformTree [DocumentSyntax] (ht : t.WellFormed)
    (hroot : Apart (root.place t.workingDirectory) (input.place t.workingDirectory))
    (hrootOutput : Apart (root.place t.workingDirectory) (output.place t.workingDirectory))
    (hapart : Apart (input.place t.workingDirectory) (output.place t.workingDirectory))
    (h : transformTree .empty root input output classpath ⟨t, []⟩ = (.ok (), s')) :
    Copied (root.place t.workingDirectory) (input.place t.workingDirectory) (output.place t.workingDirectory) t s'.files ∧
      s'.printed = ["", "DONE: 0 transformed, 0 unchanged, " ++
        s!"{countClasses t (input.place t.workingDirectory)} untouched, 0 plugin entries copied"] := by
  obtain ⟨hinput, -, -, b, config, u, outcomes, v, haccept, hwalk, rfl⟩ := transformTree_eq_ok h
  obtain ⟨hnone, hspares, hprinted⟩ := accept_nil_eq_ok haccept
  dsimp only at hinput hspares hprinted
  have hworking := hspares.workingDirectory
  -- the root is apart, so the input is still what it was when the walk starts
  have hsame : SameBelow (input.place t.workingDirectory) t u.files := .of_spares hspares ht hroot.not_prefix_append
  obtain ⟨place, hresolve⟩ := isDirectory_eq_true_iff.mp hinput
  obtain rfl : place = input.place t.workingDirectory := place_of_resolve hresolve
  have hplace : u.files.placeOf? input = some (input.place t.workingDirectory) :=
    placeOf?_eq_some_iff.mpr ⟨.directory, hspares.toGrows.resolve_directory hresolve⟩
  have hready : CopyReady (Engine.new.accept b config) input output u.files := by
    refine ⟨bypasses_of_no_transformers hnone, hsame.wellFormed, ?_, ?_⟩
    · rw [hworking]
      exact hapart
    · rw [hworking, ← List.append_nil (input.place t.workingDirectory), hsame.content, List.append_nil]
      unfold contentAt?
      rw [node?_of_resolve hresolve]
  have hdepth : u.files.height ≤ 2 * u.files.height + output.text.length + 2 := by omega
  rw [hplace, Option.getD_some, ← hworking] at hwalk
  obtain ⟨hcopies, htouched, hlines, rfl⟩ := hready.forFilesBelow_eq_ok hdepth hwalk
  rw [hworking] at hcopies htouched
  have hall (names : List String) : names ∈ u.files.filesBelow (input.place t.workingDirectory) ↔
      names ∈ t.filesBelow (input.place t.workingDirectory) := hsame.mem_filesBelow_iff ht
  refine ⟨⟨fun names hnames => ?_, fun names hnames => ?_, fun place hplace hplace' => ?_⟩, ?_⟩
  · rw [hcopies names ((hall names).mpr hnames), hsame.content]
  · have hother : ¬∃ others ∈ u.files.filesBelow (input.place t.workingDirectory),
        output.place t.workingDirectory ++ names = output.place t.workingDirectory ++ others := by
      rintro ⟨others, hothers, heq⟩
      exact hnames ((hall names).mp (List.append_cancel_left heq ▸ hothers))
    rw [htouched.content _ hother, hspares.content _ (hrootOutput.not_prefix_append names)]
  · have hother : ¬∃ others ∈ u.files.filesBelow (input.place t.workingDirectory),
        place = output.place t.workingDirectory ++ others := by
      rintro ⟨others, -, rfl⟩
      exact hplace' (List.prefix_append _ others)
    rw [htouched.content _ hother, hspares.content _ hplace]
  · dsimp only
    rw [hlines, hprinted, List.nil_append, hworking, summary_replicate, countClasses,
      (hsame.filesBelow_perm ht).countP_eq, countClasses]

end Running

/-! ## The program -/

open Running

variable {input output root : Path} {t : FileTree} {classpath : List Path} {arguments : List String}

section

variable [DocumentSyntax] {s : Session}
  (harguments : Invocation.ofArguments arguments = some (.run (.transform root input output classpath)))

include harguments

/-- A walk that ends well ends the program well. -/
theorem runProgram_of_ok (h : transformTree .empty root input output classpath ⟨t, []⟩ = (.ok (), s)) :
    runProgram .empty arguments t = ⟨0, s.printed, none, s.files⟩ := by
  have hexecute : ((Command.transform root input output classpath).execute .empty).run ⟨t, []⟩ = (.ok (), s) := h
  rw [runProgram, harguments]
  dsimp only
  rw [hexecute]

/-- A walk that fails lets the program fail, with the files as they are then. -/
theorem runProgram_of_error {failure : CommandFailure}
    (h : transformTree .empty root input output classpath ⟨t, []⟩ = (.error failure, s)) :
    runProgram .empty arguments t = ⟨1, s.printed, some failure.message, s.files⟩ := by
  have hexecute : ((Command.transform root input output classpath).execute .empty).run ⟨t, []⟩ = (.error failure, s) := h
  rw [runProgram, harguments]
  dsimp only
  rw [hexecute]

end

/-- **Without plugins, the program copies faithfully.** A type that any manifest names makes it fail, with all files as they
were. Otherwise it may fail for another reason, or it succeeds. Then each file of the input stands under the same names below
the output and holds the same, whatever it and the configuration say, and no other file was added there. The summary counts
the files that are taken for classes, as files that were left alone. -/
theorem runProgram_copies [DocumentSyntax] (ht : t.WellFormed)
    (harguments : Invocation.ofArguments arguments = some (.run (.transform root input output classpath)))
    (hroot : Apart (root.place t.workingDirectory) (input.place t.workingDirectory))
    (hrootOutput : Apart (root.place t.workingDirectory) (output.place t.workingDirectory))
    (hapart : Apart (input.place t.workingDirectory) (output.place t.workingDirectory)) :
    (¬(classpathEntries t classpath = .ok [] ∧ scanArchives t root = .ok []) →
        (runProgram .empty arguments t).exitCode = 1 ∧ (runProgram .empty arguments t).files = t) ∧
      ((runProgram .empty arguments t).exitCode = 1 ∨
        (runProgram .empty arguments t).exitCode = 0 ∧
          Copied (root.place t.workingDirectory) (input.place t.workingDirectory) (output.place t.workingDirectory) t
            (runProgram .empty arguments t).files ∧
          (runProgram .empty arguments t).printed = ["", "DONE: 0 transformed, 0 unchanged, " ++
            s!"{countClasses t (input.place t.workingDirectory)} untouched, 0 plugin entries copied"]) := by
  constructor
  · intro hnamed
    have hfailed : ∃ failure, transformTree .empty root input output classpath ⟨t, []⟩ = (.error failure, ⟨t, []⟩) :=
      transformTree_of_named hnamed
    obtain ⟨failure, hfailed⟩ := hfailed
    rw [runProgram_of_error harguments hfailed]
    exact ⟨rfl, rfl⟩
  · rcases hended : transformTree .empty root input output classpath ⟨t, []⟩ with ⟨failure | ⟨⟩, s⟩
    · rw [runProgram_of_error harguments hended]
      exact .inl rfl
    · obtain ⟨hcopied, hprinted⟩ := copied_of_transformTree ht hroot hrootOutput hapart hended
      rw [runProgram_of_ok harguments hended]
      exact .inr ⟨rfl, hcopied, hprinted⟩

/-! ## Two small inputs -/

/-- An input next to a root whose documents lack nothing. -/
def nextToRoot (input : List (Location × Node)) : FileTree where
  nodes := input ++ [(["r"], .directory), (["r", "config"], .directory), (["r", "config", "graft"], .directory),
    (["r", "config", "graft", "environment.json"], .file (.bytes (bytesOfText ("\x7b\"_comment\":1," ++
      "\"disable_jar_copying\":\x7b\"enabled\":false\x7d,\"dump\":\x7b\"enabled\":true\x7d," ++
        "\"emergency_mode\":\x7b\"enabled\":false\x7d\x7d")))),
    (["r", "config", "graft", "transformers.json"], .file (.bytes (bytesOfText "\x7b\x7d")))]
  workingDirectory := []

/-- A class in a package, though not one that could be parsed. -/
def packagedInput : FileTree :=
  nextToRoot [(["in"], .directory), (["in", "com"], .directory), (["in", "com", "Main.class"], .file (.bytes [1, 2]))]

/-- A file with the ending of classes and no name for one. -/
def dottedInput : FileTree :=
  nextToRoot [(["in"], .directory), (["in", "...class"], .file (.bytes [3]))]

theorem runProgram_copies_packagedInput :
    (runProgram .empty ["transform", "r", "in", "out"] packagedInput).exitCode = 0 ∧
      Copied ["r"] ["in"] ["out"] packagedInput
        (runProgram .empty ["transform", "r", "in", "out"] packagedInput).files := by
  have hended : (runProgram .empty ["transform", "r", "in", "out"] packagedInput).exitCode = 0 := by decide +kernel
  have harguments : Invocation.ofArguments ["transform", "r", "in", "out"] =
      some (.run (.transform ⟨"r"⟩ ⟨"in"⟩ ⟨"out"⟩ [])) := by decide +kernel
  have hwellFormed : packagedInput.WellFormed := by decide +kernel
  rcases (runProgram_copies hwellFormed harguments (by decide) (by decide) (by decide)).2 with hfailed | hcopied
  · rw [hended] at hfailed
    exact absurd hfailed (by decide)
  · exact ⟨hended, hcopied.2.1⟩

/-- **A file with the ending of classes may be copied without being counted.** -/
theorem runProgram_uncounted : Path.splitName "...class" = ("..", some "class") ∧
    dottedInput.filesBelow ["in"] = [["...class"]] ∧
      (runProgram .empty ["transform", "r", "in", "out"] dottedInput).exitCode = 0 ∧
        (runProgram .empty ["transform", "r", "in", "out"] dottedInput).printed =
          ["", "DONE: 0 transformed, 0 unchanged, 0 untouched, 0 plugin entries copied"] := by
  decide +kernel

end ClassWeaver
