import ClassWeaver.Proofs.Identity.Descriptors

/-!
# Spellings that are read back

Whatever a type is rendered as is read as that type, by the readings that take any spelling too: its binary descriptor is
told from a name by its ends, and its name by what stands between them.

## Contents

* `of_descriptor` — binary descriptors.
* `of_append_brackets`, `of_name`, `ofInternalName_internalName` — names with slashes or dots.
-/

namespace ClassWeaver.Identity

open ClassWeaver.Text

/-! ## Names of elements -/

theorem Element.name_ne_nil (e : Element) : e.name.toList ≠ [] := by
  intro h
  have hread := e.ofDotted?_name
  rw [h] at hread
  cases hread

/-- A text that spells an element with slashes or dots has, apart from slashes, only characters of names. -/
theorem Element.ne_of_slashesToDots {e : Element} {cs : List Char} (h : slashesToDots cs = e.name.toList) {x : Char}
    (hx : isSegmentChar x = false) (hslash : x ≠ '/') : ∀ c ∈ cs, c ≠ x := by
  rintro c hc rfl
  have hkept : (if c == '/' then '.' else c) = c := if_neg (by simpa using hslash)
  exact e.ne_of_mem_name hx c (h ▸ List.mem_map.mpr ⟨c, hc, hkept⟩) rfl

theorem mem_brackets {n : Nat} {c : Char} (h : c ∈ brackets n) : c = '[' ∨ c = ']' := by
  obtain ⟨pair, hpair, hc⟩ := List.mem_flatten.mp h
  obtain rfl : pair = ['[', ']'] := List.eq_of_mem_replicate hpair
  simpa using hc

/-- From a text without blanks nothing is trimmed. -/
theorem trimChars_eq_self_of_forall {cs : List Char} (h : ∀ c ∈ cs, isBlank c = false) : trimChars cs = cs :=
  trimChars_eq_self (fun c hc => h c (List.mem_of_head? hc))
    (fun c hc => h c (List.mem_reverse.mp (List.mem_of_head? hc)))

namespace TypeDescriptor

/-! ## Binary descriptors -/

/-- A descriptor holds no blank: neither do names, and the other characters of a descriptor are none. -/
theorem isBlank_of_mem_descriptorChars (d : TypeDescriptor) : ∀ c ∈ d.descriptorChars, isBlank c = false := by
  intro c hc
  rcases List.mem_append.mp hc with hc | hc
  · rw [List.eq_of_mem_replicate hc]
    decide
  · cases helement : d.element with
    | primitive p =>
      rw [helement] at hc
      obtain rfl : c = p.letter := List.mem_singleton.mp hc
      cases p <;> decide
    | object n =>
      rw [helement] at hc
      rcases List.mem_cons.mp hc with rfl | hc
      · decide
      · rcases List.mem_append.mp hc with hc | hc
        · obtain ⟨a, ha, rfl⟩ := List.mem_map.mp hc
          split
          · decide
          · rw [← Bool.not_eq_true]
            intro hblank
            exact (Element.object n).ne_of_mem_name (x := a) (by simp [isSegmentChar, hblank]) a ha rfl
        · rw [List.mem_singleton.mp hc]
          decide

/-- The descriptor of a type that is not a primitive one has the form that readings of any spelling go by. -/
theorem isDescriptorForm_descriptorChars {d : TypeDescriptor} (h : d.isPrimitive = false) :
    isDescriptorForm d.descriptorChars = true := by
  obtain ⟨element, n, hn, hvoid⟩ := d
  cases n with
  | succ n => simp [isDescriptorForm, descriptorChars, List.replicate_succ]
  | zero =>
    cases element with
    | primitive p => cases h
    | object name => simp [isDescriptorForm, descriptorChars, List.getLast?_cons]

/-- **The binary descriptor is read as the type**, by readings of any spelling too. That of a primitive type is not: it
could be the name of a class. -/
theorem of_descriptor {d : TypeDescriptor} (h : d.isPrimitive = false) : of d.descriptor = .ok d := by
  have htrim : trimChars d.descriptor.toList = d.descriptorChars := by
    rw [descriptor, String.toList_ofList, trimChars_eq_self_of_forall d.isBlank_of_mem_descriptorChars]
  rw [of, htrim, if_pos (isDescriptorForm_descriptorChars h)]
  exact d.ofDescriptor_descriptor

/-! ## Names with slashes or dots -/

variable {d : TypeDescriptor} {cs : List Char}

theorem splitPairs_eq_self {cs : List Char} (h : ∀ c ∈ cs, c ≠ ']') (n : Nat) : splitPairs n cs = (n, cs) := by
  rw [splitPairs.eq_def]
  split
  · rename_i rest
    exact absurd rfl (h ']' List.mem_cons_self)
  · rfl

/-- Pairs of brackets at the end are split off and counted. -/
theorem splitPairs_brackets (n k : Nat) (backwards : List Char) :
    splitPairs k ((brackets n).reverse ++ backwards) = splitPairs (k + n) backwards := by
  induction n generalizing k with
  | zero => rfl
  | succ n ih =>
    have hlast : (brackets (n + 1)).reverse = ']' :: '[' :: (brackets n).reverse := by
      simp [brackets, List.replicate_succ', List.flatten_append]
    rw [hlast, List.cons_append, List.cons_append, splitPairs, ih, Nat.add_right_comm, Nat.add_assoc]

section

variable {e : Element} (h : slashesToDots cs = e.name.toList) (n : Nat)

include h

/-- A text that spells an element, with brackets behind it, has no other characters than those of names, slashes and
brackets. -/
theorem ne_of_mem_append_brackets {x : Char} (hx : isSegmentChar x = false) (hslash : x ≠ '/') (hopen : x ≠ '[')
    (hclose : x ≠ ']') : ∀ c ∈ cs ++ brackets n, c ≠ x := by
  intro c hc
  rcases List.mem_append.mp hc with hc | hc
  · exact Element.ne_of_slashesToDots h hx hslash c hc
  · rintro rfl
    rcases mem_brackets hc with rfl | rfl
    · exact hopen rfl
    · exact hclose rfl

theorem trimChars_append_brackets : trimChars (cs ++ brackets n) = cs ++ brackets n := by
  refine trimChars_eq_self_of_forall fun c hc => ?_
  rw [← Bool.not_eq_true]
  intro hblank
  have hother : ∀ x : Char, isBlank x = false → c ≠ x := by
    rintro x hx rfl
    rw [hx] at hblank
    cases hblank
  exact ne_of_mem_append_brackets h n (x := c) (by simp [isSegmentChar, hblank]) (hother '/' (by decide))
    (hother '[' (by decide)) (hother ']' (by decide)) c hc rfl

/-- It begins with a character of the name and ends with one or with a bracket, so it is not taken for a descriptor. -/
theorem isDescriptorForm_append_brackets : isDescriptorForm (cs ++ brackets n) = false := by
  have hhead : ((cs ++ brackets n).head? == some '[') = false := by
    obtain ⟨first, rest, rfl⟩ : ∃ first rest, cs = first :: rest := by
      refine List.exists_cons_of_ne_nil ?_
      rintro rfl
      exact e.name_ne_nil h.symm
    rw [beq_eq_false_iff_ne, List.cons_append, List.head?_cons]
    exact fun hc => Element.ne_of_slashesToDots h (by decide) (by decide) '[' (List.mem_of_head? hc) rfl
  have hlast : ((cs ++ brackets n).getLast? == some ';') = false := by
    rw [beq_eq_false_iff_ne]
    exact fun hc => ne_of_mem_append_brackets h n (by decide) (by decide) (by decide) (by decide) ';'
      (List.mem_of_getLast? hc) rfl
  rw [isDescriptorForm, hhead, hlast, Bool.and_false, Bool.or_false]

theorem splitPairs_append_brackets : splitPairs 0 (cs ++ brackets n).reverse = (n, cs.reverse) := by
  rw [List.reverse_append, splitPairs_brackets, Nat.zero_add]
  exact splitPairs_eq_self
    (fun c hc => Element.ne_of_slashesToDots h (by decide) (by decide) c (List.mem_reverse.mp hc)) n

end

/-- A text that spells an element, be it with slashes or with dots, and pairs of brackets behind it is read as the
array of so many dimensions. -/
theorem of_append_brackets (h : slashesToDots cs = d.element.name.toList) :
    of (String.ofList (cs ++ brackets d.dimensions)) = .ok d := by
  rw [of, String.toList_ofList, trimChars_append_brackets h, isDescriptorForm_append_brackets h, ofDotted,
    splitPairs_append_brackets h]
  obtain ⟨element, n, hn, hvoid⟩ := d
  have hnot : ¬(element = .primitive .void ∧ 0 < n) := fun hv => absurd (hvoid hv.1) (Nat.pos_iff_ne_zero.mp hv.2)
  simp [h, Element.ofDotted?_name, hn, hnot]

/-- **The canonical name is read as the type.** -/
theorem of_name (d : TypeDescriptor) : of d.name = .ok d := by
  have hread := of_append_brackets (slashesToDots_eq_self (d.element.ne_of_mem_name (x := '/') (by decide)))
  rwa [← toList_name, String.ofList_toList] at hread

theorem slashesToDots_internalName (hd : d.dimensions = 0) :
    slashesToDots d.internalName.toList = d.element.name.toList := by
  have hscalar : ¬d.isArray = true := by simp [isArray, hd]
  have hname := toList_name_of_scalar hd
  have hslash : ∀ c ∈ d.name.toList, c ≠ '/' := hname ▸ d.element.ne_of_mem_name (by decide)
  rw [internalName, if_neg hscalar, ← hname]
  split
  · exact slashesToDots_eq_self hslash
  · rw [String.toList_ofList, slashesToDots_dotsToSlashes hslash]

/-- **The name in class constants is read as the type.** -/
theorem ofInternalName_internalName (d : TypeDescriptor) : ofInternalName d.internalName = .ok d := by
  cases hd : d.dimensions with
  | succ n =>
    have harray : d.isArray = true := by simp [isArray, hd]
    have hhead : (d.descriptor.toList.head? == some '[') = true := by
      rw [descriptor, String.toList_ofList, descriptorChars, hd, List.replicate_succ]
      rfl
    rw [internalName, if_pos harray, ofInternalName, if_pos hhead, ofDescriptor_descriptor]
  | zero =>
    have hname := slashesToDots_internalName hd
    have hhead : ¬(d.internalName.toList.head? == some '[') = true := by
      rw [beq_iff_eq]
      exact fun hc => Element.ne_of_slashesToDots hname (by decide) (by decide) '[' (List.mem_of_head? hc) rfl
    have hread := of_append_brackets hname
    rw [hd, brackets, List.replicate_zero, List.flatten_nil, List.append_nil, String.ofList_toList] at hread
    rw [ofInternalName, if_neg hhead, hread]

end TypeDescriptor

end ClassWeaver.Identity
