import ClassWeaver.Proofs.Edits
import ClassWeaver.Proofs.Files.Trees

/-!
# Changes of trees

A change that happens puts one node at the place that its path spells, and it puts it where none was or where a file was.
So all other files are spared, and directories that were made once need not be made again. What was written into a file
is what is read from it.

## Contents

* `isDirectory_eq_true_iff`, `read_eq_ok`, `readText_eq_ok` — looking at the end of a path.
* `Spares.put` — a node put into a tree.
* `FileAction.makeChain_spares`, `makeDirectories_eq_ok` — directories are made once, and touch no file.
* `FileAction.write_eq_ok`, `write_spares`, `copy_eq_ok` — files are written where their paths lead.
-/

namespace ClassWeaver

open ClassWeaver.Path (IsEntryName)

variable {t t' u : FileTree} {place : Location} {node : Node} {p source : Path} {content : Content}

namespace FileTree

/-! ## At the end of a path -/

theorem isDirectory_eq_true_iff : t.isDirectory p = true ↔ ∃ place, t.resolve p = .ok (.found place .directory) := by
  unfold isDirectory nodeAt?
  rw [beq_iff_eq]
  constructor
  · intro h
    split at h
    · rename_i place node hp
      cases h
      exact ⟨place, hp⟩
    · cases h
  · rintro ⟨place, hp⟩
    rw [hp]

theorem placeOf?_eq_some_iff : t.placeOf? p = some place ↔ ∃ node, t.resolve p = .ok (.found place node) := by
  unfold placeOf?
  constructor
  · intro h
    split at h
    · rename_i place node hp
      cases h
      exact ⟨node, hp⟩
    · cases h
  · rintro ⟨node, hp⟩
    rw [hp]

theorem Grows.isDirectory (h : t.Grows t') (hp : t.isDirectory p = true) : t'.isDirectory p = true := by
  obtain ⟨place, hp⟩ := isDirectory_eq_true_iff.mp hp
  exact isDirectory_eq_true_iff.mpr ⟨place, h.resolve_directory hp⟩

theorem read_eq_ok : t.read p = .ok content ↔ ∃ place, t.resolve p = .ok (.found place (.file content)) := by
  unfold read
  constructor
  · intro h
    split at h
    · rename_i place held hp
      cases h
      exact ⟨place, hp⟩
    · cases h
    · cases h
    · cases h
  · rintro ⟨place, hp⟩
    rw [hp]

theorem textOfBytes?_bytesOfText (text : String) : textOfBytes? (bytesOfText text) = some text := by
  unfold textOfBytes? bytesOfText String.fromUTF8?
  rw [Array.toArray_toList, String.toUTF8_eq_toByteArray, dif_pos text.isValidUTF8]
  rfl

theorem readText_eq_ok {text : String} : t.readText p = .ok text ↔
    ∃ place bytes, t.resolve p = .ok (.found place (.file (.bytes bytes))) ∧ textOfBytes? bytes = some text := by
  unfold readText
  constructor
  · intro h
    obtain ⟨content, hcontent, h⟩ := except_bind_eq_ok.mp h
    obtain ⟨place, hp⟩ := read_eq_ok.mp hcontent
    cases content with
    | archive a => cases h
    | bytes bytes =>
      refine ⟨place, bytes, hp, ?_⟩
      dsimp only at h
      split at h
      · rename_i found hfound
        cases h
        exact hfound
      · cases h
  · rintro ⟨place, bytes, hp, htext⟩
    simp only [read_eq_ok.mpr ⟨place, hp⟩, bind, Except.bind, htext]

/-! ## Putting nodes -/

/-- **A node put into a tree touches its own place alone**, and a directory touches no file at all: it is only put where
nothing was. -/
theorem Spares.put {touched : Location → Prop} (hdirectory : t.node? place ≠ some .directory)
    (hup : t.node? place = none → ∃ up name, place = up ++ [name] ∧ t.node? up = some .directory ∧ IsEntryName name)
    (hfree : node = .directory → t.node? place = none) (htouched : ∀ held, node = .file held → touched place) :
    t.Spares touched (t.put place node) := by
  have hne : place ≠ [] := by
    rintro rfl
    exact hdirectory rfl
  have hself : (t.put place node).node? place = some node := node?_put_self hne
  have hother {l : Location} (hl : l ≠ place) : (t.put place node).node? l = t.node? l := node?_put_of_ne hl
  refine ⟨⟨by unfold FileTree.put; split <;> rfl, ?_, ?_⟩, ?_, fun h => h.put hup hdirectory hne⟩
  · intro l hl
    rw [hother (by rintro rfl; exact hdirectory hl)]
    exact hl
  · intro l held hl
    by_cases heq : l = place
    · rw [heq] at hl
      cases node with
      | directory => rw [hfree rfl] at hl; cases hl
      | file later => exact ⟨later, by rw [heq, hself]⟩
    · exact ⟨held, by rw [hother heq, hl]⟩
  · intro l hl
    by_cases heq : l = place
    · rw [heq] at hl
      cases node with
      | directory =>
        unfold contentAt?
        rw [heq, hself, hfree rfl]
      | file later => exact absurd (htouched later rfl) hl
    · unfold contentAt?
      rw [hother heq]

end FileTree

namespace FileAction

open FileTree

/-! ## Directories -/

theorem makeDirectory_eq (p : Path) (t : FileTree) : makeDirectory p t =
    match t.resolve p with
    | .ok (.free place _) => (.ok (), t.put place .directory)
    | .ok (.found _ _) => (.error .occupied, t)
    | .error fault => (.error fault, t) := by
  unfold makeDirectory
  rw [Edits.get_bind]
  rcases t.resolve p with _ | _ | _
  · rfl
  · rfl
  · rfl

/-- A new directory touches no file, and the path leads to it. -/
theorem makeDirectory_eq_ok (h : makeDirectory p t = (.ok (), t')) :
    t.Spares (fun _ => False) t' ∧ t'.isDirectory p = true := by
  rw [makeDirectory_eq] at h
  split at h
  · rename_i place asDirectory hp
    cases h
    obtain ⟨hnone, hup⟩ := free_of_resolve hp
    have hspares : t.Spares (fun _ => False) (t.put place .directory) :=
      .put (by rw [hnone]; nofun) (fun _ => hup) (fun _ => hnone) nofun
    have hne : place ≠ [] := by
      obtain ⟨up, name, rfl, -⟩ := hup
      simp
    refine ⟨hspares, isDirectory_eq_true_iff.mpr ⟨place, ?_⟩⟩
    exact hspares.toGrows.resolve hp (node?_put_self hne) fun _ _ => rfl
  · cases h
  · cases h

/-- A directory that is there is not made again. -/
theorem makeDirectory_of_isDirectory (h : t.isDirectory p = true) : makeDirectory p t = (.error .occupied, t) := by
  obtain ⟨place, hp⟩ := isDirectory_eq_true_iff.mp h
  rw [makeDirectory_eq, hp]

theorem makeChain_of_isDirectory {up : List Path} (h : t.isDirectory p = true) : makeChain (p :: up) t = (.ok (), t) := by
  unfold makeChain
  rw [makeDirectory_of_isDirectory h]
  simp [h]

/-- A directory that could not be made leaves the tree as it was. -/
theorem makeDirectory_eq_error {fault : FileFault} (h : makeDirectory p t = (.error fault, t')) : t' = t := by
  rw [makeDirectory_eq] at h
  split at h
  · cases h
  · cases h
    rfl
  · cases h
    rfl

/-- A chain that succeeds ends with its first directory, made or found, after the chain above it if that was needed. -/
theorem makeChain_cons_eq_ok {up : List Path} (h : makeChain (p :: up) t = (.ok (), t')) :
    ∃ v, (v = t ∨ makeChain up t = (.ok (), v)) ∧ (makeDirectory p v = (.ok (), t') ∨ t' = v ∧ v.isDirectory p = true) := by
  unfold makeChain at h
  cases hfirst : makeDirectory p t with
  | mk result w =>
    rw [hfirst] at h
    dsimp only at h
    rcases result with fault | ⟨⟩
    · obtain rfl := makeDirectory_eq_error hfirst
      split at h
      · cases h
        rename_i heq
        cases heq
      · rename_i heq
        cases heq
        split at h
        · cases h
        · rename_i v hup
          refine ⟨v, .inr hup, ?_⟩
          split at h
          · cases h
            rename_i hagain
            exact .inl hagain
          · rename_i hagain
            obtain rfl := makeDirectory_eq_error hagain
            split at h
            · cases h
              rename_i hthere
              exact .inr ⟨rfl, (Bool.and_eq_true _ _ ▸ hthere).2⟩
            · cases h
      · rename_i heq
        cases heq
        split at h
        · cases h
          rename_i hthere
          exact ⟨_, .inl rfl, .inr ⟨rfl, (Bool.and_eq_true _ _ ▸ hthere).2⟩⟩
        · cases h
    · cases h
      exact ⟨t, .inl rfl, .inl hfirst⟩

theorem makeDirectory_spares (p : Path) (t : FileTree) : t.Spares (fun _ => False) (makeDirectory p t).2 := by
  cases h : makeDirectory p t with
  | mk result w =>
    cases result with
    | ok made => exact (makeDirectory_eq_ok h).1
    | error fault =>
      rw [makeDirectory_eq_error h]
      exact .refl t

/-- **Directories that are made touch no file**, also if some of them could not be made. -/
theorem makeChain_spares (chain : List Path) (t : FileTree) : t.Spares (fun _ => False) (makeChain chain t).2 := by
  induction chain generalizing t with
  | nil => exact .refl t
  | cons p up ih =>
    have hfirst := makeDirectory_spares p t
    unfold makeChain
    dsimp only
    split
    · rename_i w hmade
      rwa [hmade] at hfirst
    · rename_i w hmissing
      rw [hmissing] at hfirst
      have hup := hfirst.of_spares (ih w)
      split
      · rename_i fault v hfault
        rwa [hfault] at hup
      · rename_i v hchain
        rw [hchain] at hup
        have hagain := hup.of_spares (makeDirectory_spares p v)
        split
        · rename_i u hmade
          rwa [hmade] at hagain
        · rename_i fault u hfault
          rw [hfault] at hagain
          split
          · exact hagain
          · exact hagain
    · rename_i fault w _ hfault
      rw [hfault] at hfirst
      split
      · exact hfirst
      · exact hfirst

/-- The first directory of a chain is there then. -/
theorem isDirectory_of_makeChain {up : List Path} (h : makeChain (p :: up) t = (.ok (), t')) :
    t'.isDirectory p = true := by
  obtain ⟨v, -, hlast | ⟨rfl, hthere⟩⟩ := makeChain_cons_eq_ok h
  · exact (makeDirectory_eq_ok hlast).2
  · exact hthere

/-- **Directories are made once**: they touch no file, and in no later tree are they made again. -/
theorem makeDirectories_eq_ok (h : makeDirectories p t = (.ok (), t')) :
    t.Spares (fun _ => False) t' ∧ ∀ u, t'.Grows u → makeDirectories p u = (.ok (), u) := by
  have hspares := makeChain_spares p.ancestors t
  rw [show makeChain p.ancestors t = (.ok (), t') from h] at hspares
  refine ⟨hspares, fun u hu => ?_⟩
  unfold makeDirectories Path.ancestors Path.ancestorsWithin at h ⊢
  split at h
  · rfl
  · exact makeChain_of_isDirectory (hu.isDirectory (isDirectory_of_makeChain h))

theorem makeParents_spares (p : Path) (t : FileTree) : t.Spares (fun _ => False) (makeParents p t).2 := by
  unfold makeParents
  cases p.parent? with
  | some up => exact makeChain_spares up.ancestors t
  | none => exact .refl t

/-! ## Files -/

theorem write_eq (p : Path) (content : Content) (t : FileTree) : write p content t =
    match t.resolve p with
    | .ok (.free place false) => (.ok (), t.put place (.file content))
    | .ok (.found place (.file _)) => (.ok (), t.put place (.file content))
    | .ok (.free _ true) => (.error .isDirectory, t)
    | .ok (.found _ .directory) => (.error .isDirectory, t)
    | .error fault => (.error fault, t) := by
  unfold write
  rw [Edits.get_bind]
  rcases t.resolve p with _ | ⟨_, _ | _⟩ | ⟨_, _ | _⟩
  · rfl
  · rfl
  · rfl
  · rfl
  · rfl

/-- **Writing puts content where the path leads**, into a free place or into a file. -/
theorem write_eq_ok (h : write p content t = (.ok (), t')) :
    t.Spares (· = p.place t.workingDirectory) t' ∧
      t'.resolve p = .ok (.found (p.place t.workingDirectory) (.file content)) := by
  rw [write_eq] at h
  split at h
  · rename_i place hp
    cases h
    obtain ⟨hnone, hup⟩ := free_of_resolve hp
    have hne : place ≠ [] := by
      obtain ⟨up, name, rfl, -⟩ := hup
      simp
    have hspares : t.Spares (· = place) (t.put place (.file content)) :=
      .put (by rw [hnone]; nofun) (fun _ => hup) nofun fun _ _ => rfl
    rw [← place_of_resolve hp]
    exact ⟨hspares, hspares.toGrows.resolve hp (node?_put_self hne) nofun⟩
  · rename_i place held hp
    cases h
    have hheld := node?_of_resolve hp
    have hne : place ≠ [] := by
      rintro rfl
      cases hheld
    have hspares : t.Spares (· = place) (t.put place (.file content)) :=
      .put (by rw [hheld]; nofun) (by rw [hheld]; nofun) nofun fun _ _ => rfl
    rw [← place_of_resolve hp]
    exact ⟨hspares, hspares.toGrows.resolve hp (node?_put_self hne) nofun⟩
  · cases h
  · cases h
  · cases h

/-- A file that could not be written leaves the tree as it was. -/
theorem write_eq_error {fault : FileFault} (h : write p content t = (.error fault, t')) : t' = t := by
  rw [write_eq] at h
  split at h
  · cases h
  · cases h
  · cases h
    rfl
  · cases h
    rfl
  · cases h
    rfl

/-- Writing touches no file but the one that the path leads to. -/
theorem write_spares (p : Path) (content : Content) (t : FileTree) :
    t.Spares (· = p.place t.workingDirectory) (write p content t).2 := by
  cases h : write p content t with
  | mk result w =>
    cases result with
    | ok written => exact (write_eq_ok h).1
    | error fault =>
      rw [write_eq_error h]
      exact .refl t

/-- What a file holds where its path leads. -/
theorem contentAt?_of_write (h : write p content t = (.ok (), t')) :
    t'.contentAt? (p.place t.workingDirectory) = some content :=
  contentAt?_eq_some_iff.mpr (node?_of_resolve (write_eq_ok h).2)

/-- **A copy holds what its source holds**, if the two are at different places. -/
theorem copy_eq_ok (h : copy source p t = (.ok (), t'))
    (hplaces : source.place t.workingDirectory ≠ p.place t.workingDirectory) :
    ∃ content, t.read source = .ok content ∧ write p content t = (.ok (), t') := by
  unfold copy at h
  rw [Edits.get_bind] at h
  cases hread : t.read source with
  | error fault =>
    rw [hread] at h
    cases h
  | ok content =>
    refine ⟨content, rfl, ?_⟩
    rw [hread] at h
    dsimp only at h
    rw [if_neg] at h
    · exact h
    · intro heq
      obtain ⟨place, hsource⟩ := read_eq_ok.mp hread
      rw [placeOf?_eq_some_iff.mpr ⟨_, hsource⟩] at heq
      obtain ⟨node, hp⟩ := placeOf?_eq_some_iff.mp heq.symm
      refine hplaces ?_
      rw [← place_of_resolve hsource, ← place_of_resolve hp]
      rfl

end FileAction

end ClassWeaver
