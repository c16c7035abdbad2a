import ClassWeaver.CommandLine.Execution

/-!
# Files of classes

A file is taken for a class by its ending alone. What stands in front of the ending has to be a name, and not one of the two
that lead elsewhere.

## Contents

* `Path.splitName_eq_some_iff` — names with an ending.
* `NamesClass`, `isSome_classNameOf?_iff` — files that are taken for classes.
-/

namespace ClassWeaver

variable {name stem ending : String} {names : List String}

/-- **A name is split at its last dot**, if something stands in front of it. -/
theorem Path.splitName_eq_some_iff (hname : name ≠ "..") : Path.splitName name = (stem, some ending) ↔
    name.toList = stem.toList ++ '.' :: ending.toList ∧ '.' ∉ ending.toList ∧ stem ≠ "" := by
  unfold Path.splitName
  dsimp only
  constructor
  · intro h
    have hhead := List.head?_dropWhile_not (· != '.') name.toList.reverse
    have hsplit := List.takeWhile_append_dropWhile (p := (· != '.')) (l := name.toList.reverse)
    split at h
    · cases h
    · cases h
    · rename_i c behind hbehind hdrop
      rw [if_neg (by simp [hname])] at h
      rw [hdrop] at hhead hsplit
      obtain rfl : c = '.' := by simpa using hhead
      simp only [Prod.mk.injEq, Option.some.injEq] at h
      obtain ⟨rfl, rfl⟩ := h
      rw [String.toList_ofList, String.toList_ofList]
      refine ⟨?_, ?_, ?_⟩
      · have hreversed := congrArg List.reverse hsplit
        rw [List.reverse_reverse, List.reverse_append, List.reverse_cons, List.append_assoc] at hreversed
        exact hreversed.symm
      · intro hdot
        have hall := List.all_takeWhile (p := (· != '.')) (l := name.toList.reverse)
        have hne := List.all_eq_true.mp hall _ (List.mem_reverse.mp hdot)
        simp at hne
      · intro hempty
        have hnil := congrArg String.toList hempty
        rw [String.toList_ofList] at hnil
        exact hbehind (List.reverse_eq_nil_iff.mp hnil)
  · rintro ⟨htext, hdot, hstem⟩
    have hreversed : name.toList.reverse = ending.toList.reverse ++ '.' :: stem.toList.reverse := by
      rw [htext, List.reverse_append, List.reverse_cons, List.append_assoc]
      rfl
    have hends : ∀ c ∈ ending.toList.reverse, (c != '.') = true := by
      intro c hc
      rw [bne_iff_ne]
      rintro rfl
      exact hdot (List.mem_reverse.mp hc)
    rw [hreversed, List.dropWhile_append_of_pos hends, List.takeWhile_append_of_pos hends,
      List.dropWhile_cons_of_neg (by simp), List.takeWhile_cons_of_neg (by simp), List.append_nil, List.reverse_reverse,
      String.ofList_toList]
    split
    · rename_i heq
      cases heq
    · rename_i heq
      simp at heq
      exact absurd heq.2 hstem
    · rename_i heq
      cases heq
      rw [if_neg (by simp [hname]), List.reverse_reverse, String.ofList_toList]

namespace Running

/-- A file below the input is taken for one of a class if its name has the ending, behind a name that leads nowhere else. -/
def NamesClass (names : List String) : Prop :=
  ∃ up stem, names = up ++ [stem ++ ".class"] ∧ stem ≠ "" ∧ stem ≠ "." ∧ stem ≠ ".."

theorem isSome_classNameOf?_iff : (classNameOf? names).isSome = true ↔ NamesClass names := by
  have hends (stem : String) : stem ++ ".class" ≠ ".." := by
    intro heq
    have hlength := congrArg String.length heq
    rw [String.length_append] at hlength
    have hlong : 2 < ".class".length := by decide
    have hshort : "..".length = 2 := by decide
    omega
  have hsplit (stem : String) (hstem : stem ≠ "") : Path.splitName (stem ++ ".class") = (stem, some "class") := by
    refine (Path.splitName_eq_some_iff (hends stem)).mpr ⟨?_, by decide, hstem⟩
    rw [String.toList_append]
    rfl
  constructor
  · intro h
    unfold classNameOf? at h
    split at h
    · rename_i stem hlast
      obtain ⟨name, hname, hsplitName⟩ := Option.map_eq_some_iff.mp hlast
      obtain ⟨up, rfl⟩ := List.getLast?_eq_some_iff.mp hname
      split at h
      · cases h
      · rename_i hplain
        simp only [Bool.or_eq_true, beq_iff_eq, not_or] at hplain
        have hne : name ≠ ".." := by
          rintro rfl
          cases hsplitName
        obtain ⟨htext, -, hstem⟩ := (Path.splitName_eq_some_iff hne).mp hsplitName
        refine ⟨up, stem, ?_, hstem, hplain.1, hplain.2⟩
        have hspelled : name = stem ++ ".class" := by
          rw [← String.toList_inj, String.toList_append, htext]
          rfl
        rw [hspelled]
    · cases h
  · rintro ⟨up, stem, rfl, hempty, hdot, hdots⟩
    unfold classNameOf?
    rw [List.getLast?_concat, Option.map_some, hsplit stem hempty]
    simp [hdot, hdots]

instance (names : List String) : Decidable (NamesClass names) :=
  decidable_of_iff _ isSome_classNameOf?_iff

end Running

end ClassWeaver
