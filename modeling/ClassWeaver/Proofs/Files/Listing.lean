import ClassWeaver.Proofs.Files.Trees

/-!
# What is below a place

A directory lists each name in it once, with the node that stands there, and a node is no deeper than the tree is high. So
a tree that is listed directory by directory shows each of its files once.

## Contents

* `filesBelow` — the files below a place, at any depth.
* `mem_children_iff`, `nodup_children`, `pairwise_children` — a directory's list.
* `mem_filesBelow_iff`, `nodup_filesBelow`, `length_le_height` — all files below a place.
-/

namespace ClassWeaver.FileTree

open ClassWeaver.Path (IsEntryName)

variable {t : FileTree} {place : Location} {node : Node} {name : String} {names : List String}

/-! ## One directory -/

/-- The name of a node that stands right below a place. -/
def nameBelow? (place l : Location) : Option String :=
  l.getLast?.bind fun name => if l.dropLast == place then some name else none

theorem nameBelow?_eq_some_iff {l : Location} : nameBelow? place l = some name ↔ l = place ++ [name] := by
  unfold nameBelow?
  constructor
  · intro h
    obtain ⟨last, hlast, h⟩ := Option.bind_eq_some_iff.mp h
    obtain ⟨front, rfl⟩ := List.getLast?_eq_some_iff.mp hlast
    rw [List.dropLast_concat] at h
    split at h
    · rename_i heq
      cases h
      rw [eq_of_beq heq]
    · cases h
  · rintro rfl
    simp

/-- The nodes right below a place, in the order of the tree. -/
def below (t : FileTree) (place : Location) : List (String × Node) :=
  t.nodes.filterMap fun entry => (nameBelow? place entry.1).map fun name => (name, entry.2)

theorem children_perm (t : FileTree) (place : Location) : (t.children place).Perm (t.below place) := by
  refine (List.mergeSort_perm _ _).trans (List.Perm.of_eq ?_)
  unfold below nameBelow?
  refine List.filterMap_congr fun entry _ => ?_
  obtain ⟨l, node⟩ := entry
  cases hlast : l.getLast? with
  | none => simp [hlast]
  | some name =>
    by_cases hup : l.dropLast = place
    · simp [hlast, hup]
    · simp [hlast, hup]

/-- **A directory lists the nodes right below it**, under their names. -/
theorem mem_children_iff (h : t.WellFormed) : (name, node) ∈ t.children place ↔ t.node? (place ++ [name]) = some node := by
  rw [(children_perm t place).mem_iff, below, List.mem_filterMap]
  constructor
  · rintro ⟨⟨l, n⟩, hmem, hname⟩
    obtain ⟨found, hfound, heq⟩ := Option.map_eq_some_iff.mp hname
    cases heq
    obtain rfl := nameBelow?_eq_some_iff.mp hfound
    exact (h.mem_nodes_iff.mp hmem).2
  · intro hnode
    have hmem := h.mem_nodes_iff.mpr ⟨by simp, hnode⟩
    exact ⟨_, hmem, Option.map_eq_some_iff.mpr ⟨name, nameBelow?_eq_some_iff.mpr rfl, rfl⟩⟩

/-- **A directory lists each name once.** -/
theorem nodup_children (h : t.WellFormed) : ((t.children place).map Prod.fst).Nodup := by
  have hnames : (t.below place).map Prod.fst = (t.nodes.map Prod.fst).filterMap (nameBelow? place) := by
    rw [below, List.map_filterMap, List.filterMap_map]
    refine List.filterMap_congr fun entry _ => ?_
    rw [Option.map_map]
    exact congrFun Option.map_id _
  rw [((children_perm t place).map Prod.fst).nodup_iff, hnames]
  refine h.nodup.filterMap fun l l' name hl hl' => ?_
  rw [nameBelow?_eq_some_iff.mp hl, nameBelow?_eq_some_iff.mp hl']

/-- **A directory lists its names in their order.** -/
theorem pairwise_children (h : t.WellFormed) : (t.children place).Pairwise fun entry entry' => entry.1 < entry'.1 := by
  have hsorted : (t.children place).Pairwise fun entry entry' => decide (entry.1 ≤ entry'.1) = true := by
    refine List.pairwise_mergeSort (fun a b c hab hbc => ?_) (fun a b => ?_) _
    · exact decide_eq_true (String.le_trans (of_decide_eq_true hab) (of_decide_eq_true hbc))
    · simpa using String.le_total a.1 b.1
  have hnames : ((t.children place).map Prod.fst).Nodup := nodup_children h
  -- two names in the list are different, so one of them comes first
  refine (hsorted.and (List.pairwise_map.mp hnames)).imp fun {entry entry'} hboth => ?_
  by_contra hnot
  exact hboth.2 (String.le_antisymm (of_decide_eq_true hboth.1) (String.not_lt.mp hnot))

/-! ## All files below a place -/

/-- The names that lead from a place to a file below it. -/
def fileBelow? (place : Location) : Location × Node → Option (List String)
  | (l, .file _) => if place.isPrefixOf l then some (l.drop place.length) else none
  | (_, .directory) => none

theorem fileBelow?_eq_some_iff {entry : Location × Node} :
    fileBelow? place entry = some names ↔ ∃ content, entry = (place ++ names, .file content) := by
  constructor
  · intro h
    obtain ⟨l, _ | content⟩ := entry
    · cases h
    · unfold fileBelow? at h
      dsimp only at h
      split at h
      · rename_i hbelow
        obtain ⟨rest, rfl⟩ := List.isPrefixOf_iff_prefix.mp hbelow
        rw [List.drop_left] at h
        cases h
        exact ⟨content, rfl⟩
      · cases h
  · rintro ⟨content, rfl⟩
    unfold fileBelow?
    dsimp only
    rw [if_pos (List.isPrefixOf_iff_prefix.mpr (List.prefix_append place names)), List.drop_left]

/-- The files below a place, by the names that lead to them from there. -/
def filesBelow (t : FileTree) (place : Location) : List (List String) :=
  t.nodes.filterMap (fileBelow? place)

theorem mem_filesBelow_iff (h : t.WellFormed) :
    names ∈ t.filesBelow place ↔ (t.contentAt? (place ++ names)).isSome = true := by
  rw [filesBelow, List.mem_filterMap, Option.isSome_iff_exists]
  constructor
  · rintro ⟨entry, hmem, hnames⟩
    obtain ⟨content, rfl⟩ := fileBelow?_eq_some_iff.mp hnames
    exact ⟨content, contentAt?_eq_some_iff.mpr (h.mem_nodes_iff.mp hmem).2⟩
  · rintro ⟨content, hcontent⟩
    have hnode := contentAt?_eq_some_iff.mp hcontent
    have hne : place ++ names ≠ [] := by
      intro heq
      rw [heq] at hnode
      cases hnode
    exact ⟨_, h.mem_nodes_iff.mpr ⟨hne, hnode⟩, fileBelow?_eq_some_iff.mpr ⟨content, rfl⟩⟩

/-- The names that lead to a file are names that files can have. -/
theorem isEntryName_of_mem_filesBelow (h : t.WellFormed) (hnames : names ∈ t.filesBelow place) :
    ∀ name ∈ names, IsEntryName name := by
  obtain ⟨content, hcontent⟩ := Option.isSome_iff_exists.mp ((mem_filesBelow_iff h).mp hnames)
  have hnode := contentAt?_eq_some_iff.mp hcontent
  have hall := h.isEntryName_of_mem (by rw [hnode]; rfl)
  exact fun name hname => hall name (List.mem_append_right _ hname)

/-- **Each file below a place is counted once.** -/
theorem nodup_filesBelow (h : t.WellFormed) : (t.filesBelow place).Nodup := by
  refine List.pairwise_filterMap.mpr ((List.pairwise_map.mp h.nodup).imp fun hne names hnames names' hnames' heq => ?_)
  obtain ⟨content, rfl⟩ := fileBelow?_eq_some_iff.mp hnames
  obtain ⟨content', rfl⟩ := fileBelow?_eq_some_iff.mp hnames'
  rw [heq] at hne
  exact hne rfl

/-- **No node is deeper than the tree is high.** -/
theorem length_le_height (h : (place, node) ∈ t.nodes) : place.length ≤ t.height := by
  have hfold (lengths : List Nat) (start : Nat) :
      start ≤ lengths.foldl max start ∧ ∀ n ∈ lengths, n ≤ lengths.foldl max start := by
    induction lengths generalizing start with
    | nil => exact ⟨Nat.le_refl start, nofun⟩
    | cons first lengths ih =>
      obtain ⟨hstart, hall⟩ := ih (max start first)
      rw [List.foldl_cons]
      refine ⟨Nat.le_trans (Nat.le_max_left start first) hstart, List.forall_mem_cons.mpr ⟨?_, hall⟩⟩
      exact Nat.le_trans (Nat.le_max_right start first) hstart
  exact (hfold _ 0).2 _ (List.mem_map_of_mem (f := fun entry : Location × Node => entry.1.length) h)

theorem length_le_of_mem_filesBelow (h : names ∈ t.filesBelow place) : names.length ≤ t.height := by
  obtain ⟨entry, hmem, hnames⟩ := List.mem_filterMap.mp h
  obtain ⟨content, rfl⟩ := fileBelow?_eq_some_iff.mp hnames
  have hheight := length_le_height hmem
  rw [List.length_append] at hheight
  omega

end ClassWeaver.FileTree
