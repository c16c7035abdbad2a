/-!
# Splitting texts

The parts of a text between the occurrences of a character, and its lines.
-/

namespace ClassWeaver.Text

/-- The parts between the occurrences of a separator; there is always one. -/
def split (separator : Char) : List Char → List (List Char)
  | [] => [[]]
  | c :: rest =>
    if c == separator then [] :: split separator rest
    else
      match split separator rest with
      | [] => [[c]]
      | first :: more => (c :: first) :: more

/-- The lines of a text. -/
def lines (s : String) : List String :=
  (split '\n' s.toList).map String.ofList

/-! ## The parts -/

/-- There is a part even if nothing is split. -/
theorem split_ne_nil (separator : Char) (cs : List Char) : split separator cs ≠ [] := by
  cases cs with
  | nil => simp [split]
  | cons c rest =>
    simp only [split]
    split
    · simp
    · split <;> simp

/-- No part holds the separator. -/
theorem notMem_of_mem_split {separator : Char} {cs part : List Char} (h : part ∈ split separator cs) :
    separator ∉ part := by
  induction cs generalizing part with
  | nil => simp_all [split]
  | cons c rest ih =>
    by_cases hc : c = separator
    · simp only [split, hc, beq_self_eq_true, if_true, List.mem_cons] at h
      rcases h with rfl | h
      · simp
      · exact ih h
    · have hne := split_ne_nil separator rest
      cases hs : split separator rest with
      | nil => exact absurd hs hne
      | cons first more =>
        simp only [split, beq_iff_eq, hc, if_false, hs, List.mem_cons] at h
        rcases h with rfl | h
        · simp only [List.mem_cons, not_or]
          exact ⟨fun e => hc e.symm, ih (by simp [hs])⟩
        · exact ih (by simp [hs, h])

/-- A text without the separator is one part. -/
theorem split_eq_singleton {separator : Char} {cs : List Char} (h : separator ∉ cs) : split separator cs = [cs] := by
  induction cs with
  | nil => rfl
  | cons c rest ih =>
    simp only [List.mem_cons, not_or] at h
    simp [split, Ne.symm h.1, ih h.2]

/-- The parts of two texts with a separator between them are the parts of both. -/
theorem split_append (separator : Char) (as bs : List Char) :
    split separator (as ++ separator :: bs) = split separator as ++ split separator bs := by
  induction as with
  | nil => simp [split]
  | cons a as ih =>
    by_cases ha : a = separator
    · simp [split, ha, ih]
    · cases hs : split separator as with
      | nil => exact absurd hs (split_ne_nil separator as)
      | cons first more => simp [split, ha, ih, hs]

/-- What stands in front of all separators is in front of the first part. -/
theorem split_append_of_notMem {separator : Char} {front : List Char} (h : separator ∉ front) (cs : List Char) :
    ∃ first more, split separator cs = first :: more ∧ split separator (front ++ cs) = (front ++ first) :: more := by
  induction front with
  | nil =>
    cases hs : split separator cs with
    | nil => exact absurd hs (split_ne_nil separator cs)
    | cons first more => exact ⟨first, more, rfl, by simp [hs]⟩
  | cons c front ih =>
    simp only [List.mem_cons, not_or] at h
    obtain ⟨first, more, hcs, hfront⟩ := ih h.2
    exact ⟨first, more, hcs, by simp [split, Ne.symm h.1, hfront]⟩

/-- What stands behind all separators is behind the last part. -/
theorem split_concat_of_notMem {separator : Char} {back : List Char} (h : separator ∉ back) (cs : List Char) :
    ∃ front last, split separator cs = front ++ [last] ∧ split separator (cs ++ back) = front ++ [last ++ back] := by
  induction cs with
  | nil => exact ⟨[], [], rfl, split_eq_singleton h⟩
  | cons c cs ih =>
    obtain ⟨front, last, hcs, hback⟩ := ih
    by_cases hc : c = separator
    · exact ⟨[] :: front, last, by simp [split, hc, hcs], by simp [split, hc, hback]⟩
    · cases front with
      | nil => exact ⟨[], c :: last, by simp [split, hc, hcs], by simp [split, hc, hback]⟩
      | cons first more => exact ⟨(c :: first) :: more, last, by simp [split, hc, hcs], by simp [split, hc, hback]⟩

/-- The parts with separators between them are the text. -/
theorem intercalate_split (separator : Char) (cs : List Char) : [separator].intercalate (split separator cs) = cs := by
  induction cs with
  | nil => rfl
  | cons c cs ih =>
    cases hs : split separator cs with
    | nil => exact absurd hs (split_ne_nil separator cs)
    | cons first more =>
      rw [hs] at ih
      by_cases hc : c = separator
      · simpa [split, hc, hs, List.intercalate] using ih
      · cases more with
        | nil => simpa [split, hc, hs, List.intercalate, List.intersperse] using ih
        | cons second more => simpa [split, hc, hs, List.intercalate, List.intersperse] using ih

/-- Texts without the separator are the parts of what they make with separators between them. -/
theorem split_intercalate {separator : Char} {parts : List (List Char)} (hne : parts ≠ [])
    (h : ∀ part ∈ parts, separator ∉ part) : split separator ([separator].intercalate parts) = parts := by
  induction parts with
  | nil => exact absurd rfl hne
  | cons part parts ih =>
    obtain ⟨hpart, hparts⟩ := List.forall_mem_cons.mp h
    cases parts with
    | nil => simpa [List.intercalate] using split_eq_singleton hpart
    | cons next parts =>
      have hrest := ih (by simp) hparts
      have hjoined : [separator].intercalate (part :: next :: parts) =
          part ++ separator :: [separator].intercalate (next :: parts) := by
        simp [List.intercalate, List.intersperse]
      rw [hjoined, split_append, split_eq_singleton hpart, hrest]
      rfl

/-- The parts tell the text. -/
theorem split_injective {separator : Char} {as bs : List Char} (h : split separator as = split separator bs) :
    as = bs := by
  rw [← intercalate_split separator as, h, intercalate_split]

end ClassWeaver.Text
