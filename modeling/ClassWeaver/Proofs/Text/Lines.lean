import ClassWeaver.Text.Blank
import ClassWeaver.Text.Split
import Mathlib.Data.List.Forall2

/-!
# Lines and what stands on them

What the lines of a text are, and what is left of a line without the blanks around it, can be said without the functions
that find them: lines are joined by line ends and have none in them, and what is left stands between blanks and neither
begins nor ends with one. Both functions are told by that.

## Contents

* `IsLines`, `isLines_iff` — the lines of a text.
* `Trims`, `trims_iff` — a line and what stands on it.
* `Entries`, `entries_iff` — what stands on the lines that are not blank.
-/

namespace ClassWeaver.Text

variable {text line core : String} {lines entries : List String} {cs front back : List Char}

/-! ## Lines -/

/-- The lines of a text: with line ends between them they are the text, and no line has one in it. There is always a line. -/
structure IsLines (text : String) (lines : List String) : Prop where
  joined : "\n".intercalate lines = text
  unbroken : ∀ line ∈ lines, '\n' ∉ line.toList
  ne_nil : lines ≠ []

/-- **A text has its lines and no others.** -/
theorem isLines_iff : IsLines text lines ↔ lines = Text.lines text := by
  have hend : "\n".toList = ['\n'] := rfl
  unfold Text.lines
  constructor
  · rintro ⟨rfl, hunbroken, hne⟩
    rw [String.toList_intercalate, hend, split_intercalate (by simpa using hne) (List.forall_mem_map.mpr hunbroken),
      List.map_map]
    exact ((List.map_congr_left fun line _ => String.ofList_toList).trans (List.map_id lines)).symm
  · rintro rfl
    refine ⟨?_, fun line hline => ?_, ?_⟩
    · rw [← String.toList_inj, String.toList_intercalate, hend, List.map_map]
      have hchars : (split '\n' text.toList).map (String.toList ∘ String.ofList) = split '\n' text.toList :=
        (List.map_congr_left fun cs _ => String.toList_ofList).trans (List.map_id _)
      rw [hchars, intercalate_split]
    · obtain ⟨cs, hcs, rfl⟩ := List.mem_map.mp hline
      rw [String.toList_ofList]
      exact notMem_of_mem_split hcs
    · simpa using split_ne_nil '\n' text.toList

/-! ## What stands on a line -/

/-- What stands on a line: there are blanks around it, and it neither begins nor ends with one. -/
structure Trims (line core : String) : Prop where
  around : ∃ front back, line.toList = front ++ core.toList ++ back ∧ (∀ c ∈ front, isBlank c = true) ∧
    ∀ c ∈ back, isBlank c = true
  first : ∀ c, core.toList.head? = some c → isBlank c = false
  last : ∀ c, core.toList.getLast? = some c → isBlank c = false

/-- Blanks in front do not count. -/
theorem dropWhile_isBlank_append (hfront : ∀ c ∈ front, isBlank c = true) (hcs : ∀ c, cs.head? = some c → isBlank c = false) :
    (front ++ cs).dropWhile isBlank = cs := by
  rw [List.dropWhile_append_of_pos hfront]
  cases cs with
  | nil => rfl
  | cons c cs => exact List.dropWhile_cons_of_neg (by simp [hcs c rfl])

/-- What blanks are in front of, up to the first character that is none. -/
theorem exists_blanks (cs : List Char) : ∃ front rest, cs = front ++ rest ∧ (∀ c ∈ front, isBlank c = true) ∧
    rest = cs.dropWhile isBlank ∧ ∀ c, rest.head? = some c → isBlank c = false := by
  refine ⟨cs.takeWhile isBlank, cs.dropWhile isBlank, List.takeWhile_append_dropWhile.symm, ?_, rfl, fun c hc => ?_⟩
  · exact fun c hc => List.all_eq_true.mp List.all_takeWhile c hc
  · have hhead := List.head?_dropWhile_not isBlank cs
    rw [hc] at hhead
    simpa using hhead

/-- **Trimming leaves what stands on a line.** -/
theorem trims_iff : Trims line core ↔ core = trim line := by
  unfold trim trimChars
  constructor
  · rintro ⟨⟨front, back, hline, hfront, hback⟩, hfirst, hlast⟩
    rw [← String.toList_inj, String.toList_ofList, hline, List.append_assoc]
    by_cases hcore : core.toList = []
    · have hblank : ∀ c ∈ front ++ back, isBlank c = true := by
        intro c hc
        exact (List.mem_append.mp hc).elim (hfront c) (hback c)
      have hnothing : (front ++ back ++ []).dropWhile isBlank = [] := dropWhile_isBlank_append hblank nofun
      rw [List.append_nil] at hnothing
      rw [hcore, List.nil_append, hnothing]
      rfl
    · have hbehind : ∀ c, (core.toList ++ back).head? = some c → isBlank c = false := by
        intro c hc
        rw [List.head?_append_of_ne_nil _ hcore] at hc
        exact hfirst c hc
      have hreversed : ∀ c, core.toList.reverse.head? = some c → isBlank c = false := by
        intro c hc
        rw [List.head?_reverse] at hc
        exact hlast c hc
      rw [dropWhile_isBlank_append hfront hbehind, List.reverse_append,
        dropWhile_isBlank_append (fun c hc => hback c (List.mem_reverse.mp hc)) hreversed, List.reverse_reverse]
  · rintro rfl
    obtain ⟨front, rest, hline, hfront, hrest, hfirst⟩ := exists_blanks line.toList
    obtain ⟨back, core, hsplit, hback, hcore, hlast⟩ := exists_blanks rest.reverse
    have hbehind : rest = core.reverse ++ back.reverse := by
      rw [← List.reverse_append, ← hsplit, List.reverse_reverse]
    rw [← hrest, ← hcore]
    refine ⟨⟨front, back.reverse, ?_, hfront, fun c hc => hback c (List.mem_reverse.mp hc)⟩, fun c hc => ?_, fun c hc => ?_⟩
    · rw [String.toList_ofList, List.append_assoc, ← hbehind]
      exact hline
    · rw [String.toList_ofList] at hc
      refine hfirst c ?_
      rw [hbehind, List.head?_append, hc]
      rfl
    · rw [String.toList_ofList, List.getLast?_reverse] at hc
      exact hlast c hc

/-! ## The lines that are not blank -/

/-- What stands on the lines of a text, as far as something stands there. -/
def Entries (text : String) (entries : List String) : Prop :=
  ∃ lines cores, IsLines text lines ∧ List.Forall₂ Trims lines cores ∧ entries = cores.filter fun core => core ≠ ""

/-- A text has one list of entries. -/
theorem entries_iff : Entries text entries ↔ entries = ((Text.lines text).map trim).filter fun core => core ≠ "" := by
  have hcores {lines cores : List String} : List.Forall₂ Trims lines cores ↔ cores = lines.map trim := by
    have hflip : Trims = fun line core => trim line = core := by
      funext line core
      exact propext (trims_iff.trans eq_comm)
    rw [hflip, ← List.forall₂_map_left_iff, List.forall₂_eq_eq_eq, eq_comm]
  constructor
  · rintro ⟨lines, cores, hlines, hforall, rfl⟩
    rw [hcores.mp hforall, isLines_iff.mp hlines]
  · rintro rfl
    exact ⟨_, _, isLines_iff.mpr rfl, hcores.mpr rfl, rfl⟩

end ClassWeaver.Text
