import ClassWeaver.CommandLine.Execution
import ClassWeaver.Proofs.Edits
import ClassWeaver.Proofs.Files.Listing

/-!
# Walks through directories

A walk lists a directory when it comes to it, and the tree may have changed by then: visits put files elsewhere, and
directories may have come up anywhere. As long as the files below the start of the walk are left alone this does not matter.
The walk is then a visit to each of these files, once each and one after the other, and the directories that came up have no
files in them.

## Contents

* `SameBelow`, `Spared` — trees and visits that leave the files below a place alone.
* `forFilesBelow_eq_ok` — walks are rows of visits.
-/

namespace ClassWeaver.Running

open FileTree

variable {β : Type} {visit : List String → Running (List β)} {t t' : FileTree} {top : Location} {relative : List String}
  {s s' : Session}

/-- A well-formed tree with the files of an earlier one below a place. -/
structure SameBelow (top : Location) (t t' : FileTree) : Prop where
  workingDirectory : t'.workingDirectory = t.workingDirectory
  wellFormed : t'.WellFormed
  content : ∀ names, t'.contentAt? (top ++ names) = t.contentAt? (top ++ names)

namespace SameBelow

theorem of_spares {touched : Location → Prop} (hspares : t.Spares touched t') (ht : t.WellFormed)
    (htop : ∀ names, ¬touched (top ++ names)) : SameBelow top t t' :=
  ⟨hspares.workingDirectory, hspares.wellFormed ht, fun names => hspares.content _ (htop names)⟩

theorem mem_filesBelow_iff (h : SameBelow top t t') (ht : t.WellFormed) {names : List String} :
    names ∈ t'.filesBelow top ↔ names ∈ t.filesBelow top := by
  rw [FileTree.mem_filesBelow_iff h.wellFormed, FileTree.mem_filesBelow_iff ht, h.content]

/-- The same files, in some order. -/
theorem filesBelow_perm (h : SameBelow top t t') (ht : t.WellFormed) : (t'.filesBelow top).Perm (t.filesBelow top) :=
  (List.perm_ext_iff_of_nodup (nodup_filesBelow h.wellFormed) (nodup_filesBelow ht)).mpr fun _ => h.mem_filesBelow_iff ht

end SameBelow

/-- Visits to the files below a place leave these files alone. -/
def Spared (visit : List String → Running (List β)) (top : Location) (t : FileTree) : Prop :=
  ∀ names ∈ t.filesBelow top, ∀ s outcomes s', SameBelow top t s.files → visit names s = (.ok outcomes, s') →
    SameBelow top t s'.files

theorem Spared.mapM (hvisit : Spared visit top t) {files : List (List String)} (hfiles : ∀ names ∈ files, names ∈ t.filesBelow top)
    {results : List (List β)} (hs : SameBelow top t s.files) (h : files.mapM visit s = (.ok results, s')) :
    SameBelow top t s'.files := by
  induction files generalizing s results with
  | nil =>
    obtain ⟨-, rfl⟩ := Edits.mapM_nil_eq_ok.mp h
    exact hs
  | cons names files ih =>
    obtain ⟨hnames, hrest⟩ := List.forall_mem_cons.mp hfiles
    obtain ⟨outcomes, u, later, hfirst, hlater, rfl⟩ := Edits.mapM_cons_eq_ok.mp h
    exact ih hrest (hvisit names hnames s outcomes u hs hfirst) hlater

/-- A run is a row of visits: one to each of the files that it is for, and its results are theirs. -/
def IsRow (visit : List String → Running (List β)) (isFor : List String → Prop) (s : Session) (results : List β)
    (s' : Session) : Prop :=
  ∃ (files : List (List String)) (outcomes : List (List β)), files.Nodup ∧ (∀ names, names ∈ files ↔ isFor names) ∧
    files.mapM visit s = (.ok outcomes, s') ∧ outcomes.flatten = results

theorem IsRow.congr {isFor isFor' : List String → Prop} {results : List β} (h : IsRow visit isFor s results s')
    (hfor : ∀ names, isFor names ↔ isFor' names) : IsRow visit isFor' s results s' := by
  obtain ⟨files, outcomes, hnodup, hfiles, hrun, hresults⟩ := h
  exact ⟨files, outcomes, hnodup, fun names => (hfiles names).trans (hfor names), hrun, hresults⟩

/-- Two rows for different files are one. -/
theorem IsRow.append {isFor isFor' : List String → Prop} {results results' : List β} {u : Session}
    (h : IsRow visit isFor s results u) (h' : IsRow visit isFor' u results' s')
    (hdisjoint : ∀ names, isFor names → ¬isFor' names) :
    IsRow visit (fun names => isFor names ∨ isFor' names) s (results ++ results') s' := by
  obtain ⟨files, outcomes, hnodup, hfiles, hrun, rfl⟩ := h
  obtain ⟨files', outcomes', hnodup', hfiles', hrun', rfl⟩ := h'
  refine ⟨files ++ files', outcomes ++ outcomes', ?_, ?_, Edits.mapM_append_eq_ok hrun hrun', List.flatten_append⟩
  · refine List.nodup_append.mpr ⟨hnodup, hnodup', fun names hnames names' hnames' heq => ?_⟩
    exact hdisjoint names ((hfiles names).mp hnames) ((hfiles' names).mp (heq ▸ hnames'))
  · intro names
    rw [List.mem_append, hfiles, hfiles']

/-- A file has nothing below it. -/
theorem eq_of_prefix_of_file (ht : t.WellFormed) {names : List String} (hrelative : relative ∈ t.filesBelow top)
    (hnames : names ∈ t.filesBelow top) (hbelow : relative <+: names) : names = relative := by
  obtain ⟨rest, rfl⟩ := hbelow
  by_cases hrest : rest = []
  · rw [hrest, List.append_nil]
  · obtain ⟨content, hcontent⟩ := Option.isSome_iff_exists.mp ((mem_filesBelow_iff ht).mp hnames)
    have hnode := contentAt?_eq_some_iff.mp hcontent
    rw [← List.append_assoc] at hnode
    have hdirectory := ht.directory_of_append (by rw [hnode]; rfl) hrest
    obtain ⟨held, hheld⟩ := Option.isSome_iff_exists.mp ((mem_filesBelow_iff ht).mp hrelative)
    rw [contentAt?_eq_some_iff.mp hheld] at hdirectory
    cases hdirectory

/-- What a walk does with an entry of a directory. -/
def visitEntry (visit : List String → Running (List β)) (depth : Nat) (place : Location) (relative : List String)
    (entry : String × Node) : Running (List β) :=
  match entry.2 with
  | .file _ => visit (relative ++ [entry.1])
  | .directory => forFilesBelow visit depth (place ++ [entry.1]) (relative ++ [entry.1])

theorem forFilesBelow_succ_eq_ok {depth : Nat} {place : Location} {results : List β} :
    forFilesBelow visit (depth + 1) place relative s = (.ok results, s') ↔
      ∃ parts, (s.files.children place).mapM (visitEntry visit depth place relative) s = (.ok parts, s') ∧
        parts.flatten = results := by
  have hstep : forFilesBelow visit (depth + 1) place relative = do
      let parts ← ((← get).files.children place).mapM (visitEntry visit depth place relative)
      return parts.flatten := by
    rw [forFilesBelow]
    rfl
  rw [hstep, Edits.get_bind, Edits.bind_eq_ok]
  constructor
  · rintro ⟨parts, u, hparts, h⟩
    obtain ⟨rfl, rfl⟩ := Edits.pure_eq_ok.mp h
    exact ⟨parts, hparts, rfl⟩
  · rintro ⟨parts, hparts, rfl⟩
    exact ⟨parts, s', hparts, rfl⟩

/-- A file below a place is what stands under some names there, or it is below that. -/
def InEntry (t : FileTree) (top : Location) (relative : List String) (names : List String) : Prop :=
  names ∈ t.filesBelow top ∧ relative <+: names

/-- **The entries of a directory, one after the other**: each is a visit or a walk of its own, for different files. -/
theorem isRow_entries (ht : t.WellFormed) (hvisit : Spared visit top t) {depth : Nat} {entries : List (String × Node)}
    (hnodup : (entries.map Prod.fst).Nodup)
    (hfiles : ∀ name content, (name, .file content) ∈ entries → relative ++ [name] ∈ t.filesBelow top)
    (hwalks : ∀ name, (name, .directory) ∈ entries → ∀ s results s', SameBelow top t s.files →
      forFilesBelow visit depth (top ++ relative ++ [name]) (relative ++ [name]) s = (.ok results, s') →
        IsRow visit (InEntry t top (relative ++ [name])) s results s')
    {parts : List (List β)} (hs : SameBelow top t s.files)
    (h : entries.mapM (visitEntry visit depth (top ++ relative) relative) s = (.ok parts, s')) :
    IsRow visit (fun names => ∃ entry ∈ entries, InEntry t top (relative ++ [entry.1]) names) s parts.flatten s' := by
  induction entries generalizing s parts with
  | nil =>
    obtain ⟨rfl, rfl⟩ := Edits.mapM_nil_eq_ok.mp h
    exact ⟨[], [], List.nodup_nil, fun names => iff_of_false nofun nofun, Edits.mapM_nil_eq_ok.mpr ⟨rfl, rfl⟩, rfl⟩
  | cons entry entries ih =>
    obtain ⟨name, node⟩ := entry
    obtain ⟨hname, hnodup⟩ := List.nodup_cons.mp hnodup
    obtain ⟨part, u, parts, hpart, hparts, rfl⟩ := Edits.mapM_cons_eq_ok.mp h
    have hfirst : IsRow visit (InEntry t top (relative ++ [name])) s part u := by
      cases node with
      | directory => exact hwalks name List.mem_cons_self s part u hs hpart
      | file content =>
        have hfile := hfiles name content List.mem_cons_self
        refine ⟨[relative ++ [name]], [part], List.nodup_cons.mpr ⟨List.not_mem_nil, List.nodup_nil⟩, fun names => ?_, ?_, ?_⟩
        · rw [List.mem_singleton]
          constructor
          · rintro rfl
            exact ⟨hfile, List.prefix_rfl⟩
          · exact fun hnames => eq_of_prefix_of_file ht hfile hnames.1 hnames.2
        · exact Edits.mapM_cons_eq_ok.mpr ⟨part, u, [], hpart, Edits.mapM_nil_eq_ok.mpr ⟨rfl, rfl⟩, rfl⟩
        · exact List.append_nil part
    have hu : SameBelow top t u.files := by
      obtain ⟨files, outcomes, -, hmem, hrun, -⟩ := hfirst
      exact hvisit.mapM (fun names hnames => ((hmem names).mp hnames).1) hs hrun
    have hrest := ih hnodup (fun name content hmem => hfiles name content (List.mem_cons_of_mem _ hmem))
      (fun name hmem => hwalks name (List.mem_cons_of_mem _ hmem)) hu hparts
    refine (hfirst.append hrest ?_).congr fun names => by simp only [List.mem_cons, exists_eq_or_imp]
    -- the entries have different names, and a file is below one of them only
    rintro names ⟨-, hbelow⟩ ⟨⟨name', node'⟩, hmem, -, hbelow'⟩
    have heq : relative ++ [name] = relative ++ [name'] :=
      (List.prefix_of_prefix_length_le hbelow hbelow' (by simp)).eq_of_length (by simp)
    obtain rfl : name = name' := by simpa using heq
    exact hname (List.mem_map.mpr ⟨_, hmem, rfl⟩)

theorem InEntry.ne {names : List String} (ht : t.WellFormed) (hstart : t.contentAt? (top ++ relative) = none)
    (h : InEntry t top relative names) : names ≠ relative := by
  rintro rfl
  have hfile := (mem_filesBelow_iff ht).mp h.1
  rw [hstart] at hfile
  cases hfile

/-- Every file below a directory is below one of the entries that the directory lists. -/
theorem inEntry_iff (ht : t.WellFormed) {u : FileTree} (hu : SameBelow top t u)
    (hstart : t.contentAt? (top ++ relative) = none) {names : List String} :
    (∃ entry ∈ u.children (top ++ relative), InEntry t top (relative ++ [entry.1]) names) ↔ InEntry t top relative names := by
  constructor
  · rintro ⟨entry, -, hfile, hbelow⟩
    exact ⟨hfile, (List.prefix_append relative [entry.1]).trans hbelow⟩
  · intro h
    have hne := h.ne ht hstart
    obtain ⟨hfile, rest, rfl⟩ := h
    cases rest with
    | nil => exact absurd (List.append_nil relative) hne
    | cons name rest =>
      have hthere : (u.node? (top ++ relative ++ [name])).isSome = true := by
        have hcontent := (mem_filesBelow_iff ht).mp hfile
        rw [← hu.content] at hcontent
        obtain ⟨content, hcontent⟩ := Option.isSome_iff_exists.mp hcontent
        have hnode := contentAt?_eq_some_iff.mp hcontent
        rw [List.append_cons relative, ← List.append_assoc, ← List.append_assoc] at hnode
        by_cases hrest : rest = []
        · rw [hrest, List.append_nil] at hnode
          rw [hnode]
          rfl
        · rw [hu.wellFormed.directory_of_append (by rw [hnode]; rfl) hrest]
          rfl
      obtain ⟨node, hnode⟩ := Option.isSome_iff_exists.mp hthere
      exact ⟨(name, node), (mem_children_iff hu.wellFormed).mpr hnode, hfile, rest, (List.append_cons relative name rest).symm⟩

/-- **A walk is a row of visits**, one to each file below the place where it starts, if it may go as deep as there are
files. -/
theorem forFilesBelow_eq_ok (ht : t.WellFormed) (hvisit : Spared visit top t) {depth : Nat} {results : List β}
    (hstart : t.contentAt? (top ++ relative) = none)
    (hdepth : ∀ names, InEntry t top relative names → names.length ≤ relative.length + depth)
    (hs : SameBelow top t s.files) (h : forFilesBelow visit depth (top ++ relative) relative s = (.ok results, s')) :
    IsRow visit (InEntry t top relative) s results s' := by
  induction depth generalizing relative s results s' with
  | zero =>
    obtain ⟨rfl, rfl⟩ := Edits.pure_eq_ok.mp h
    refine ⟨[], [], List.nodup_nil, fun names => iff_of_false nofun fun hnames => ?_, Edits.mapM_nil_eq_ok.mpr ⟨rfl, rfl⟩, rfl⟩
    exact hnames.ne ht hstart (hnames.2.eq_of_length_le (hdepth names hnames)).symm
  | succ depth ih =>
    obtain ⟨parts, hparts, rfl⟩ := forFilesBelow_succ_eq_ok.mp h
    refine (isRow_entries ht hvisit (nodup_children hs.wellFormed) ?_ ?_ hs hparts).congr fun names => inEntry_iff ht hs hstart
    · intro name content hmem
      have hnode := (mem_children_iff hs.wellFormed).mp hmem
      rw [List.append_assoc] at hnode
      rw [mem_filesBelow_iff ht, ← hs.content, contentAt?_eq_some_iff.mpr hnode]
      rfl
    · intro name hmem u results u' hu hwalk
      have hnode := (mem_children_iff hs.wellFormed).mp hmem
      rw [List.append_assoc] at hnode hwalk
      refine ih ?_ (fun names hnames => ?_) hu hwalk
      · rw [← hs.content]
        unfold contentAt?
        rw [hnode]
      · have hlength := hdepth names ⟨hnames.1, (List.prefix_append relative [name]).trans hnames.2⟩
        rw [List.length_append, List.length_singleton]
        omega

end ClassWeaver.Running
