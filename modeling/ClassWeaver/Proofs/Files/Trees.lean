import ClassWeaver.Proofs.Files.Paths
import Mathlib.Data.List.Induction
import Mathlib.Data.List.Nodup

/-!
# Trees that grow

Files and directories are never taken away and never turn into each other, and most changes leave most files alone. What
a path leads to in a tree it leads to in all later trees, where a file may hold something else by then. Where it led to a
free name, it leads to what was put there. Both follow from the way a path is followed, one name at a time, and so does
that a path never leads to a place other than the one it spells.

## Contents

* `contentAt?` — what the file at a place holds.
* `node?_put_self`, `node?_put_of_ne` — trees with a node put into them.
* `follow_cons_eq_ok`, `place_of_resolve` — following a path name by name, and where it leads.
* `Grows`, `Grows.resolve` — trees with more in them, and paths in them.
* `WellFormed` — trees whose nodes stand in directories, once each.
* `Spares` — changes that leave all files but some alone.
-/

namespace ClassWeaver.FileTree

open ClassWeaver.Path (step IsEntryName)

/-- The place that following comes to. -/
def Spot.place : Spot → Location
  | .found place _ => place
  | .free place _ => place

variable {t t' u : FileTree} {place other : Location} {node : Node} {p : Path} {name : String} {names : List String}
  {content : Content}

/-! ## Nodes -/

/-- What the file at a place holds, if there is one. -/
def contentAt? (t : FileTree) (place : Location) : Option Content :=
  match t.node? place with
  | some (.file content) => some content
  | _ => none

theorem contentAt?_eq_some_iff : t.contentAt? place = some content ↔ t.node? place = some (.file content) := by
  unfold contentAt?
  rcases t.node? place with _ | _ | held
  · exact iff_of_false nofun nofun
  · exact iff_of_false nofun nofun
  · simp

theorem node?_eq (h : place ≠ []) : t.node? place = (t.nodes.find? fun entry => entry.1 == place).map Prod.snd := by
  unfold node?
  split
  · exact absurd rfl h
  · rfl

theorem fst_eq_of_find? {nodes : List (Location × Node)} {entry : Location × Node}
    (h : nodes.find? (fun entry => entry.1 == place) = some entry) : entry.1 = place := by
  have hentry := List.find?_some h
  exact eq_of_beq hentry

theorem mem_nodes_of_node? (h : t.node? place = some node) (hne : place ≠ []) : (place, node) ∈ t.nodes := by
  rw [node?_eq hne, Option.map_eq_some_iff] at h
  obtain ⟨⟨l, n⟩, hfound, rfl⟩ := h
  obtain rfl : l = place := fst_eq_of_find? hfound
  exact List.mem_of_find?_eq_some hfound

/-- What was put at a place stands there. -/
theorem node?_put_self (h : place ≠ []) : (t.put place node).node? place = some node := by
  rw [node?_eq h]
  unfold put
  split
  · rename_i hany
    obtain ⟨⟨l, n⟩, hmem, heq⟩ := List.any_eq_true.mp hany
    obtain rfl : l = place := eq_of_beq heq
    generalize hfound : List.find? (fun entry : Location × Node => entry.1 == l) (List.map _ t.nodes) = found
    cases found with
    | none =>
      have hnone := List.find?_eq_none.mp hfound (l, node) (List.mem_map.mpr ⟨(l, n), hmem, by simp⟩)
      exact absurd (beq_self_eq_true l) hnone
    | some entry =>
      -- whatever is found there went through the replacement
      have hl := fst_eq_of_find? hfound
      obtain ⟨⟨k, n'⟩, -, rfl⟩ := List.mem_map.mp (List.mem_of_find?_eq_some hfound)
      by_cases hk : k = l
      · simp [hk]
      · simp [hk] at hl
  · rename_i hany
    have hnone : (t.nodes.find? fun entry => entry.1 == place) = none := by
      rw [List.find?_eq_none]
      exact fun entry hentry heq => hany (List.any_eq_true.mpr ⟨entry, hentry, heq⟩)
    simp [List.find?_append, hnone]

/-- What stands elsewhere is not touched. -/
theorem node?_put_of_ne (h : other ≠ place) : (t.put place node).node? other = t.node? other := by
  by_cases hother : other = []
  · rw [hother]
    rfl
  rw [node?_eq hother, node?_eq hother]
  unfold put
  split
  · rw [List.find?_map, Option.map_map]
    have hsame : ((fun entry : Location × Node => entry.1 == other) ∘
        fun (k, n) => if k == place then (k, node) else (k, n)) = fun entry => entry.1 == other := by
      funext ⟨k, n⟩
      by_cases hk : k = place
      · simp [hk]
      · simp [hk]
    rw [hsame]
    cases hfound : t.nodes.find? fun entry => entry.1 == other with
    | none => rfl
    | some entry =>
      have hne : entry.1 ≠ place := fun heq => h ((fst_eq_of_find? hfound).symm.trans heq)
      simp [hne]
  · rw [List.find?_append]
    cases t.nodes.find? fun entry => entry.1 == other with
    | none => simp [Ne.symm h]
    | some entry => rfl

/-! ## Following names -/

/-- A name that leads nowhere or up. -/
def IsSpecial (name : String) : Prop :=
  name = "" ∨ name = "." ∨ name = ".."

theorem step_of_not_special (h : ¬IsSpecial name) : step place name = place ++ [name] := by
  simp only [IsSpecial, not_or] at h
  unfold step
  rw [if_neg (by simp [h]), if_neg (by simp [h])]

/-- **What following a name comes to**: it leads on from a directory, to another one or to something that is there, or it
is free and nothing but slashes may come behind it. -/
theorem follow_cons_eq_ok {spot : Spot} : t.follow place (name :: names) = .ok spot ↔
    t.node? place = some .directory ∧
      ((IsSpecial name ∨ isName name = true ∧ (t.node? (step place name)).isSome = true) ∧
          t.follow (step place name) names = .ok spot ∨
        ¬IsSpecial name ∧ isName name = true ∧ t.node? (place ++ [name]) = none ∧ (∀ n ∈ names, n = "") ∧
          spot = .free (place ++ [name]) (!names.isEmpty)) := by
  rw [FileTree.follow.eq_def]
  rcases t.node? place with _ | held
  · exact iff_of_false nofun nofun
  cases held with
  | file content => exact iff_of_false nofun nofun
  | directory =>
  rw [and_iff_right rfl]
  dsimp only
  by_cases hstay : (name == "" || name == ".") = true
  · have hspecial : IsSpecial name := by
      simp only [Bool.or_eq_true, beq_iff_eq] at hstay
      exact hstay.elim .inl fun h => .inr (.inl h)
    rw [if_pos hstay, step, if_pos hstay]
    simp [hspecial]
  rw [if_neg hstay]
  by_cases hup : (name == "..") = true
  · have hspecial : IsSpecial name := .inr (.inr (eq_of_beq hup))
    rw [if_pos hup, step, if_neg hstay, if_pos hup]
    simp [hspecial]
  rw [if_neg hup]
  have hplain : ¬IsSpecial name := by
    simp only [Bool.or_eq_true, beq_iff_eq, not_or] at hstay hup
    exact fun h => h.elim hstay.1 fun h => h.elim hstay.2 hup
  rw [step_of_not_special hplain]
  by_cases hname : isName name = true
  case neg =>
    rw [if_pos (by simp [hname])]
    exact iff_of_false nofun fun h => h.elim (fun h => h.1.elim hplain fun h => hname h.1) fun h => hname h.2.1
  rw [if_neg (by simp [hname])]
  cases hnode : t.node? (place ++ [name]) with
  | some n =>
    rw [Option.isSome_some, if_pos rfl]
    exact ⟨fun h => .inl ⟨.inr ⟨hname, rfl⟩, h⟩, fun h => h.elim And.right fun h => nomatch h.2.2.1⟩
  | none =>
    rw [Option.isSome_none, if_neg Bool.false_ne_true]
    have hall : (names.all (· == "")) = true ↔ ∀ n ∈ names, n = "" := by
      simp [List.all_eq_true]
    by_cases hrest : (names.all (· == "")) = true
    · rw [if_pos hrest, Except.ok.injEq]
      constructor
      · exact fun h => .inr ⟨hplain, hname, rfl, hall.mp hrest, h.symm⟩
      · rintro (⟨h | ⟨-, h⟩, -⟩ | ⟨-, -, -, -, h⟩)
        · exact absurd h hplain
        · cases h
        · exact h.symm
    · rw [if_neg hrest]
      refine iff_of_false nofun ?_
      rintro (⟨h | ⟨-, h⟩, -⟩ | ⟨-, -, -, h, -⟩)
      · exact hplain h
      · cases h
      · exact hrest (hall.mpr h)

theorem follow_nil_eq_ok {spot : Spot} :
    t.follow place [] = .ok spot ↔ ∃ node, t.node? place = some node ∧ spot = .found place node := by
  unfold follow
  cases t.node? place with
  | none => exact iff_of_false nofun nofun
  | some node => simp [eq_comm]

theorem foldl_step_nothing {names : List String} (h : ∀ n ∈ names, n = "") (place : Location) :
    names.foldl step place = place := by
  induction names with
  | nil => rfl
  | cons n names ih =>
    obtain ⟨rfl, hnames⟩ := List.forall_mem_cons.mp h
    exact ih hnames

/-- **Names lead to the place that they spell**, or to nothing at all. -/
theorem place_of_follow {spot : Spot} (h : t.follow place names = .ok spot) : spot.place = names.foldl step place := by
  induction names generalizing place with
  | nil =>
    obtain ⟨node, -, rfl⟩ := follow_nil_eq_ok.mp h
    rfl
  | cons name names ih =>
    obtain ⟨-, ⟨-, h⟩ | ⟨hplain, -, -, hrest, rfl⟩⟩ := follow_cons_eq_ok.mp h
    · exact ih h
    · rw [List.foldl_cons, step_of_not_special hplain, foldl_step_nothing hrest]
      rfl

/-- What stands where names lead. -/
theorem node?_of_follow {node : Node} (h : t.follow place names = .ok (.found other node)) : t.node? other = some node := by
  induction names generalizing place with
  | nil =>
    obtain ⟨node, hnode, heq⟩ := follow_nil_eq_ok.mp h
    cases heq
    exact hnode
  | cons name names ih =>
    obtain ⟨-, ⟨-, h⟩ | ⟨-, -, -, -, heq⟩⟩ := follow_cons_eq_ok.mp h
    · exact ih h
    · cases heq

/-- A free name stands in a directory, and it is one of the names that were followed. -/
theorem free_of_follow {asDirectory : Bool} (h : t.follow place names = .ok (.free other asDirectory)) :
    t.node? other = none ∧ ∃ up name, other = up ++ [name] ∧ t.node? up = some .directory ∧ name ∈ names ∧
      ¬IsSpecial name := by
  induction names generalizing place with
  | nil =>
    obtain ⟨node, -, heq⟩ := follow_nil_eq_ok.mp h
    cases heq
  | cons name names ih =>
    obtain ⟨hplace, ⟨-, h⟩ | ⟨hplain, -, hnone, -, heq⟩⟩ := follow_cons_eq_ok.mp h
    · obtain ⟨hnone, up, name', rfl, hup, hmem, hplain⟩ := ih h
      exact ⟨hnone, up, name', rfl, hup, List.mem_cons_of_mem _ hmem, hplain⟩
    · cases heq
      exact ⟨hnone, place, name, rfl, hplace, List.mem_cons_self, hplain⟩

/-- Slashes behind a directory lead nowhere else. -/
theorem follow_nothing (hplace : t.node? place = some .directory) (hnames : ∀ n ∈ names, n = "") :
    t.follow place names = .ok (.found place .directory) := by
  induction names with
  | nil => exact follow_nil_eq_ok.mpr ⟨_, hplace, rfl⟩
  | cons name names ih =>
    obtain ⟨rfl, hrest⟩ := List.forall_mem_cons.mp hnames
    exact follow_cons_eq_ok.mpr ⟨hplace, .inl ⟨.inl (.inl rfl), ih hrest⟩⟩

/-! ## Following paths -/

theorem resolve_eq_ok {spot : Spot} : t.resolve p = .ok spot ↔
    p.text ≠ "" ∧ p.text.utf8ByteSize ≤ maxPathLength ∧
      t.follow (if p.isAbsolute then [] else t.workingDirectory) p.segments = .ok spot := by
  unfold resolve
  by_cases hempty : p.text = ""
  · rw [if_pos (by simp [hempty])]
    exact iff_of_false nofun fun h => h.1 hempty
  · rw [if_neg (by simp [hempty]), and_iff_right hempty]
    by_cases hlong : maxPathLength < p.text.utf8ByteSize
    · rw [if_pos hlong]
      exact iff_of_false nofun fun h => absurd h.1 (by omega)
    · rw [if_neg hlong, and_iff_right (by omega)]

/-- **A path leads to the place that it spells**, or to nothing at all. -/
theorem place_of_resolve {spot : Spot} (h : t.resolve p = .ok spot) : spot.place = p.place t.workingDirectory :=
  place_of_follow (resolve_eq_ok.mp h).2.2

theorem node?_of_resolve (h : t.resolve p = .ok (.found place node)) : t.node? place = some node :=
  node?_of_follow (resolve_eq_ok.mp h).2.2

theorem free_of_resolve {asDirectory : Bool} (h : t.resolve p = .ok (.free place asDirectory)) :
    t.node? place = none ∧ ∃ up name, place = up ++ [name] ∧ t.node? up = some .directory ∧ IsEntryName name := by
  obtain ⟨hnone, up, name, rfl, hup, hmem, hplain⟩ := free_of_follow (resolve_eq_ok.mp h).2.2
  obtain ⟨part, hpart, rfl⟩ := List.mem_map.mp hmem
  have hslash : '/' ∉ (String.ofList part).toList := by
    rw [String.toList_ofList]
    exact Text.notMem_of_mem_split hpart
  simp only [IsSpecial, not_or] at hplain
  exact ⟨hnone, up, _, rfl, hup, hplain.1, hplain.2.1, hplain.2.2, hslash⟩

/-! ## Trees with more in them -/

/-- What is there stays there: directories as directories, and files as files that may hold something else. -/
structure Grows (t t' : FileTree) : Prop where
  workingDirectory : t'.workingDirectory = t.workingDirectory
  directory : ∀ place, t.node? place = some .directory → t'.node? place = some .directory
  file : ∀ place content, t.node? place = some (.file content) → ∃ later, t'.node? place = some (.file later)

namespace Grows

theorem refl (t : FileTree) : t.Grows t :=
  ⟨rfl, fun _ h => h, fun _ content h => ⟨content, h⟩⟩

theorem of_grows (h : t.Grows t') (h' : t'.Grows u) : t.Grows u where
  workingDirectory := h'.workingDirectory.trans h.workingDirectory
  directory place hplace := h'.directory place (h.directory place hplace)
  file place content hplace := by
    obtain ⟨later, hlater⟩ := h.file place content hplace
    exact h'.file place later hlater

theorem isSome_node? (h : t.Grows t') (hplace : (t.node? place).isSome = true) : (t'.node? place).isSome = true := by
  rcases hnode : t.node? place with _ | _ | content
  · rw [hnode] at hplace
    cases hplace
  · rw [h.directory place hnode]
    rfl
  · obtain ⟨later, hlater⟩ := h.file place content hnode
    rw [hlater]
    rfl

theorem follow (h : t.Grows t') {spot : Spot} (hspot : t.follow place names = .ok spot)
    (hnode : t'.node? spot.place = some node)
    (hslash : ∀ other, spot = .free other true → node = .directory) :
    t'.follow place names = .ok (.found spot.place node) := by
  induction names generalizing place with
  | nil =>
    obtain ⟨earlier, -, rfl⟩ := follow_nil_eq_ok.mp hspot
    exact follow_nil_eq_ok.mpr ⟨node, hnode, rfl⟩
  | cons name names ih =>
    obtain ⟨hplace, ⟨hleads, hspot⟩ | ⟨hplain, hname, -, hrest, rfl⟩⟩ := follow_cons_eq_ok.mp hspot
    · refine follow_cons_eq_ok.mpr ⟨h.directory place hplace, .inl ⟨hleads.imp_right fun hthere => ?_, ih hspot⟩⟩
      exact ⟨hthere.1, h.isSome_node? hthere.2⟩
    · -- the name was free, and something has been put there
      have hstep : step place name = place ++ [name] := step_of_not_special hplain
      refine follow_cons_eq_ok.mpr ⟨h.directory place hplace, .inl ⟨.inr ⟨hname, ?_⟩, ?_⟩⟩
      · rw [hstep]
        exact Option.isSome_iff_exists.mpr ⟨node, hnode⟩
      · rw [hstep]
        cases names with
        | nil => exact follow_nil_eq_ok.mpr ⟨node, hnode, rfl⟩
        | cons next names =>
          obtain rfl := hslash _ rfl
          exact follow_nothing hnode hrest

/-- **Paths in a later tree**: a path leads to what is there now, be it what was there or what was put into a place that
was free. -/
theorem resolve (h : t.Grows t') {spot : Spot} (hspot : t.resolve p = .ok spot) (hnode : t'.node? spot.place = some node)
    (hslash : ∀ other, spot = .free other true → node = .directory) :
    t'.resolve p = .ok (.found spot.place node) := by
  obtain ⟨hne, hlength, hfollow⟩ := resolve_eq_ok.mp hspot
  refine resolve_eq_ok.mpr ⟨hne, hlength, ?_⟩
  rw [h.workingDirectory]
  exact h.follow hfollow hnode hslash

theorem resolve_directory (h : t.Grows t') (hp : t.resolve p = .ok (.found place .directory)) :
    t'.resolve p = .ok (.found place .directory) :=
  h.resolve hp (h.directory place (node?_of_resolve hp)) nofun

end Grows

/-! ## Well-formed trees -/

/-- Every node stands in a directory under a name that files can have, and there is one at a place. -/
structure WellFormed (t : FileTree) : Prop where
  nodup : (t.nodes.map Prod.fst).Nodup
  top : [] ∉ t.nodes.map Prod.fst
  inDirectory : ∀ place name, (t.node? (place ++ [name])).isSome = true →
    t.node? place = some .directory ∧ IsEntryName name

namespace WellFormed

/-- The nodes of the list are those that are found. -/
theorem mem_nodes_iff (h : t.WellFormed) : (place, node) ∈ t.nodes ↔ place ≠ [] ∧ t.node? place = some node := by
  constructor
  · intro hmem
    have hne : place ≠ [] := by
      rintro rfl
      exact h.top (List.mem_map_of_mem (f := Prod.fst) hmem)
    refine ⟨hne, ?_⟩
    rw [node?_eq hne]
    cases hfound : t.nodes.find? fun entry => entry.1 == place with
    | none => exact absurd (beq_self_eq_true place) (List.find?_eq_none.mp hfound _ hmem)
    | some entry =>
      have heq := fst_eq_of_find? hfound
      have hentry := List.mem_of_find?_eq_some hfound
      rw [List.inj_on_of_nodup_map h.nodup hentry hmem heq]
      rfl
  · exact fun hnode => mem_nodes_of_node? hnode.2 hnode.1

/-- The names on the way to a node are names that files can have, and those behind a prefix of its place too. -/
theorem isEntryName_of_mem (h : t.WellFormed) (hplace : (t.node? place).isSome = true) :
    ∀ name ∈ place, IsEntryName name := by
  induction place using List.reverseRecOn with
  | nil => exact nofun
  | append_singleton place name ih =>
    obtain ⟨hup, hname⟩ := h.inDirectory place name hplace
    have hfront := ih (by rw [hup]; rfl)
    intro n hn
    rcases List.mem_append.mp hn with hn | hn
    · exact hfront n hn
    · rw [List.mem_singleton.mp hn]
      exact hname

/-- Above a node there are directories. -/
theorem directory_of_append (h : t.WellFormed) {rest : Location} (hplace : (t.node? (place ++ rest)).isSome = true)
    (hrest : rest ≠ []) : t.node? place = some .directory := by
  induction rest using List.reverseRecOn with
  | nil => exact absurd rfl hrest
  | append_singleton rest name ih =>
    rw [← List.append_assoc] at hplace
    have hup := (h.inDirectory _ _ hplace).1
    by_cases hne : rest = []
    · rw [hne, List.append_nil] at hup
      exact hup
    · exact ih (by rw [hup]; rfl) hne

end WellFormed

/-- A tree is well-formed if each of its nodes stands in a directory, under a name that files can have. -/
theorem wellFormed_iff : t.WellFormed ↔ (t.nodes.map Prod.fst).Nodup ∧ [] ∉ t.nodes.map Prod.fst ∧
    ∀ entry ∈ t.nodes, t.node? entry.1.dropLast = some .directory ∧ ∀ name ∈ entry.1.getLast?, IsEntryName name := by
  constructor
  · refine fun h => ⟨h.nodup, h.top, fun entry hentry => ?_⟩
    obtain ⟨place, node⟩ := entry
    obtain ⟨hne, hnode⟩ := h.mem_nodes_iff.mp hentry
    obtain ⟨up, name, rfl⟩ := (List.eq_nil_or_concat place).resolve_left hne
    rw [List.concat_eq_append] at hnode ⊢
    obtain ⟨hup, hname⟩ := h.inDirectory up name (by rw [hnode]; rfl)
    rw [List.dropLast_concat, List.getLast?_concat]
    exact ⟨hup, fun other hother => Option.some.inj hother ▸ hname⟩
  · rintro ⟨hnodup, htop, hall⟩
    refine ⟨hnodup, htop, fun place name hnode => ?_⟩
    obtain ⟨node, hnode⟩ := Option.isSome_iff_exists.mp hnode
    have hentry := hall _ (mem_nodes_of_node? hnode (by simp))
    rw [List.dropLast_concat, List.getLast?_concat] at hentry
    exact ⟨hentry.1, hentry.2 name rfl⟩

instance (t : FileTree) : Decidable t.WellFormed :=
  decidable_of_iff _ wellFormed_iff.symm

theorem map_fst_put (h : t.nodes.any (fun entry => entry.1 == place) = true) :
    (t.put place node).nodes.map Prod.fst = t.nodes.map Prod.fst := by
  unfold put
  rw [if_pos h, List.map_map]
  refine List.map_congr_left fun entry _ => ?_
  by_cases hentry : entry.1 = place
  · simp [hentry]
  · simp [hentry]

/-- A node that is put into a directory, or in place of a file, leaves the tree well-formed. -/
theorem WellFormed.put (h : t.WellFormed) (hup : t.node? place = none →
      ∃ up name, place = up ++ [name] ∧ t.node? up = some .directory ∧ IsEntryName name)
    (hfile : t.node? place ≠ some .directory) (hne : place ≠ []) : (t.put place node).WellFormed := by
  have hother {l : Location} (hl : l ≠ place) : (t.put place node).node? l = t.node? l := node?_put_of_ne hl
  have hdirectory {l : Location} (hl : t.node? l = some .directory) : (t.put place node).node? l = some .directory := by
    rw [hother (by rintro rfl; exact hfile hl)]
    exact hl
  have hplaces : (t.put place node).nodes.map Prod.fst = t.nodes.map Prod.fst ∨
      t.node? place = none ∧ (t.put place node).nodes.map Prod.fst = t.nodes.map Prod.fst ++ [place] := by
    by_cases hany : t.nodes.any (fun entry => entry.1 == place) = true
    · exact .inl (map_fst_put hany)
    · refine .inr ⟨?_, ?_⟩
      · rw [node?_eq hne, List.find?_eq_none.mpr fun entry hentry heq => hany (List.any_eq_true.mpr ⟨entry, hentry, heq⟩)]
        rfl
      · unfold FileTree.put
        rw [if_neg hany, List.map_append]
        rfl
  refine ⟨?_, ?_, ?_⟩
  · rcases hplaces with hplaces | ⟨hnone, hplaces⟩
    · rw [hplaces]
      exact h.nodup
    · rw [hplaces, List.nodup_append]
      refine ⟨h.nodup, List.nodup_cons.mpr ⟨List.not_mem_nil, List.nodup_nil⟩, ?_⟩
      intro l hl k hk heq
      obtain ⟨⟨l, n⟩, hmem, rfl⟩ := List.mem_map.mp hl
      rw [← heq.trans (List.mem_singleton.mp hk), (h.mem_nodes_iff.mp hmem).2] at hnone
      cases hnone
  · rcases hplaces with hplaces | ⟨-, hplaces⟩
    · rw [hplaces]
      exact h.top
    · rw [hplaces, List.mem_append, List.mem_singleton, not_or]
      exact ⟨h.top, fun heq => hne heq.symm⟩
  · intro l name hl
    have hold : t.node? l = some .directory ∧ IsEntryName name := by
      by_cases heq : l ++ [name] = place
      · cases hnode : t.node? place with
        | some n => exact h.inDirectory l name (by rw [heq, hnode]; rfl)
        | none =>
          obtain ⟨up, name', hsplit, hdir, hentry⟩ := hup hnode
          obtain ⟨rfl, rfl⟩ := List.append_singleton_inj.mp (heq.trans hsplit)
          exact ⟨hdir, hentry⟩
      · rw [hother heq] at hl
        exact h.inDirectory l name hl
    exact ⟨hdirectory hold.1, hold.2⟩

/-! ## Changes that leave most files alone -/

/-- Outside of the places that may be touched there are the same files as before, holding what they held. -/
structure Spares (touched : Location → Prop) (t t' : FileTree) : Prop extends Grows t t' where
  content : ∀ place, ¬touched place → t'.contentAt? place = t.contentAt? place
  wellFormed : t.WellFormed → t'.WellFormed

namespace Spares

variable {touched more : Location → Prop}

theorem refl (t : FileTree) : t.Spares touched t where
  toGrows := .refl t
  content _ _ := rfl
  wellFormed h := h

theorem mono (h : t.Spares touched t') (hmore : ∀ place, touched place → more place) : t.Spares more t' where
  toGrows := h.toGrows
  content place hplace := h.content place fun ht => hplace (hmore place ht)
  wellFormed := h.wellFormed

theorem of_spares (h : t.Spares touched t') (h' : t'.Spares touched u) : t.Spares touched u where
  toGrows := h.toGrows.of_grows h'.toGrows
  content place hplace := (h'.content place hplace).trans (h.content place hplace)
  wellFormed ht := h'.wellFormed (h.wellFormed ht)

/-- A file that is not touched is led to as before. -/
theorem resolve_file (h : t.Spares touched t') (hp : t.resolve p = .ok (.found place (.file content)))
    (hplace : ¬touched place) : t'.resolve p = .ok (.found place (.file content)) := by
  have hheld := contentAt?_eq_some_iff.mpr (node?_of_resolve hp)
  rw [← h.content place hplace] at hheld
  exact h.resolve hp (contentAt?_eq_some_iff.mp hheld) nofun

end Spares

end ClassWeaver.FileTree
