import ClassWeaver.Identity.InternTable
import ClassWeaver.Proofs.Edits

/-!
# Names, descriptors and the intern table

A type has one canonical name, and the name determines the type: an element's name holds no bracket, so the
brackets behind it are the dimensions. This is what lets a table that is searched by name stand for a table of
types.

Recognising a spelling without a report (`find?`) strips the two ends of a descriptor, reading one (`of`) goes
through it from the front. The two agree on every text, since no class name holds a semicolon. So asking the table
is reading the text and looking whether the type is there.

## Contents

* `Element.ofDotted?_name`, `Element.ne_of_mem_name` — names of elements, and what stands in none.
* `name_injective` — the canonical name determines the type.
* `find?_eq_toOption_of` — recognition agrees with reading.
* `lookup_eq_some_iff` — what a look-up of any text finds in any table.
-/

namespace ClassWeaver.Identity

open ClassWeaver.Text

/-! ## The characters of names -/

theorem isSegmentChar_of_isDotted {fresh : Bool} {cs : List Char} (h : isDotted fresh cs = true) :
    ∀ c ∈ cs, c = '.' ∨ isSegmentChar c = true := by
  induction cs generalizing fresh with
  | nil => exact nofun
  | cons a rest ih =>
    intro c hc
    rw [isDotted] at h
    split at h
    · rename_i ha
      rcases List.mem_cons.mp hc with rfl | hc
      · exact .inl (eq_of_beq ha)
      · exact ih (Bool.and_eq_true_iff.mp h).2 c hc
    · rcases List.mem_cons.mp hc with rfl | hc
      · exact .inr (Bool.and_eq_true_iff.mp h).1
      · exact ih (Bool.and_eq_true_iff.mp h).2 c hc

/-- A character that is neither a dot nor fit for a segment stands in no class name. -/
theorem ne_of_isClassName {cs : List Char} (h : isClassName cs = true) {x : Char} (hdot : x ≠ '.')
    (hx : isSegmentChar x = false) : ∀ c ∈ cs, c ≠ x := by
  rintro c hc rfl
  rcases isSegmentChar_of_isDotted h c hc with rfl | hseg
  · exact hdot rfl
  · rw [hx] at hseg
    cases hseg

/-! ## Names of elements -/

theorem Element.ofDotted?_name (e : Element) : ofDotted? e.name.toList = some e := by
  rw [ofDotted?, String.ofList_toList]
  cases e with
  | primitive p =>
    split
    · rename_i q hq
      rw [name, Primitive.ofKeyword?_keyword] at hq
      cases hq
      rfl
    · rename_i hnone
      rw [name, Primitive.ofKeyword?_keyword] at hnone
      cases hnone
  | object n =>
    split
    · rename_i q hq
      rw [name, n.not_keyword] at hq
      cases hq
    · rw [dif_pos (show isClassName (Element.object n).name.toList = true from n.dotted)]
      rfl

theorem Element.name_of_ofDotted? {cs : List Char} {e : Element} (h : ofDotted? cs = some e) : e.name.toList = cs := by
  unfold ofDotted? at h
  dsimp only at h
  split at h
  · rename_i p hp
    cases h
    rw [name, Primitive.keyword_of_ofKeyword? hp, String.toList_ofList]
  · split at h
    · cases h
      exact String.toList_ofList
    · cases h

/-- A character that is not fit for a segment stands in no element's name. -/
theorem Element.ne_of_mem_name (e : Element) {x : Char} (hx : isSegmentChar x = false) : ∀ c ∈ e.name.toList, c ≠ x := by
  cases e with
  | primitive p =>
    have hkeyword : p.keyword.toList.all isSegmentChar = true := by cases p <;> decide
    rintro c hc rfl
    have hc := List.all_eq_true.mp hkeyword c hc
    rw [hx] at hc
    cases hc
  | object n =>
    refine ne_of_isClassName n.dotted ?_ hx
    rintro rfl
    exact absurd hx (by decide)

/-- The name of an element determines it: no class is called like a primitive type. -/
theorem Element.name_injective {a b : Element} (h : a.name = b.name) : a = b := by
  have hread := a.ofDotted?_name
  rw [h, ofDotted?_name] at hread
  exact (Option.some.inj hread).symm

/-! ## Canonical names -/

/-- One pair of brackets for each dimension. -/
def brackets (n : Nat) : List Char :=
  (List.replicate n ['[', ']']).flatten

theorem length_brackets (n : Nat) : (brackets n).length = n * 2 := by
  simp [brackets]

theorem takeWhile_append_brackets {cs : List Char} (h : ∀ c ∈ cs, c ≠ '[') (n : Nat) :
    (cs ++ brackets n).takeWhile (· != '[') = cs := by
  rw [List.takeWhile_append_of_pos (by simpa using h)]
  cases n with
  | zero => simp [brackets]
  | succ n => simp [brackets, List.replicate_succ]

namespace TypeDescriptor

theorem toList_name (d : TypeDescriptor) : d.name.toList = d.element.name.toList ++ brackets d.dimensions := by
  simp only [name, String.toList_ofList, brackets]

theorem toList_name_of_scalar {d : TypeDescriptor} (hd : d.dimensions = 0) : d.name.toList = d.element.name.toList := by
  rw [toList_name, hd]
  exact List.append_nil _

/-- **The canonical name determines the type.** -/
theorem name_injective {a b : TypeDescriptor} (h : a.name = b.name) : a = b := by
  have hlist : a.element.name.toList ++ brackets a.dimensions = b.element.name.toList ++ brackets b.dimensions := by
    rw [← toList_name, ← toList_name, h]
  have hname : a.element.name.toList = b.element.name.toList := by
    rw [← takeWhile_append_brackets (a.element.ne_of_mem_name (by decide)) a.dimensions, hlist,
      takeWhile_append_brackets (b.element.ne_of_mem_name (by decide))]
  have hdims : a.dimensions = b.dimensions := by
    rw [hname, List.append_cancel_left_eq] at hlist
    have hlen := congrArg List.length hlist
    rw [length_brackets, length_brackets] at hlen
    omega
  have helem : a.element = b.element := Element.name_injective (String.toList_inj.mp hname)
  cases a
  cases b
  cases hdims
  cases helem
  rfl

/-! ## Recognition and reading -/

/-- A text that spells a class spells it without a semicolon. -/
theorem ne_semicolon_of_ofDotted? {cs : List Char} {n : ClassName}
    (h : Element.ofDotted? (slashesToDots cs) = some (.object n)) : ∀ c ∈ cs, c ≠ ';' := by
  have hname := Element.name_of_ofDotted? h
  rintro c hc rfl
  exact (Element.object n).ne_of_mem_name (by decide) ';' (hname ▸ List.mem_map.mpr ⟨';', hc, rfl⟩) rfl

theorem takeWhile_ne_of_forall {x : Char} {cs : List Char} (h : ∀ c ∈ cs, c ≠ x) (rest : List Char) :
    (cs ++ x :: rest).takeWhile (· != x) = cs := by
  rw [List.takeWhile_append_of_pos (by simpa using h)]
  simp

theorem dropWhile_ne_of_forall {x : Char} {cs : List Char} (h : ∀ c ∈ cs, c ≠ x) (rest : List Char) :
    (cs ++ x :: rest).dropWhile (· != x) = x :: rest := by
  rw [List.dropWhile_append_of_pos (by simpa using h)]
  simp

theorem dropWhile_ne_eq_nil {x : Char} {cs : List Char} (h : ∀ c ∈ cs, c ≠ x) : cs.dropWhile (· != x) = [] := by
  have hall : ∀ c ∈ cs, (c != x) = true := by simpa using h
  rw [← List.append_nil cs, List.dropWhile_append_of_pos hall, List.dropWhile_nil]

/-- A text either has no semicolon, or falls apart at its first one. -/
theorem eq_append_semicolon (cs : List Char) :
    (∀ c ∈ cs, c ≠ ';') ∨ ∃ pre after, cs = pre ++ ';' :: after ∧ ∀ c ∈ pre, c ≠ ';' := by
  induction cs with
  | nil => exact .inl nofun
  | cons a rest ih =>
    by_cases ha : a = ';'
    · exact .inr ⟨[], rest, by rw [ha]; rfl, nofun⟩
    · rcases ih with h | ⟨pre, after, rfl, h⟩
      · exact .inl (List.forall_mem_cons.mpr ⟨ha, h⟩)
      · exact .inr ⟨a :: pre, after, rfl, List.forall_mem_cons.mpr ⟨ha, h⟩⟩

/-- The type that the name of an element spells in a descriptor of some depth, if it spells a class. -/
def classOfDotted? (cs : List Char) (depth : Nat) (hd : depth < 256) : Option TypeDescriptor :=
  match Element.ofDotted? (slashesToDots cs) with
  | some (.object n) => some ⟨.object n, depth, hd, nofun⟩
  | _ => none

theorem classOfDotted?_eq_none {cs : List Char} {depth : Nat} (hd : depth < 256) (h : ';' ∈ cs) :
    classOfDotted? cs depth hd = none := by
  unfold classOfDotted?
  split
  · rename_i n hn
    exact absurd rfl (ne_semicolon_of_ofDotted? hn ';' h)
  · rfl

section

variable {cs inner : List Char}

/-- A descriptor of a class: reading stops at the first semicolon, recognition takes the last character for it. -/
theorem ofComplete?_eq_of_class (hrest : cs.dropWhile (· == '[') = 'L' :: inner) :
    ofComplete? cs = (ofDescriptor (String.ofList cs)).toOption := by
  have hletter : Primitive.ofLetter? 'L' = none := by decide
  unfold ofComplete? ofDescriptor parseFieldType
  rw [String.toList_ofList, hrest]
  dsimp only
  split
  · rename_i hd
    rcases eq_append_semicolon inner with hnone | ⟨pre, after, rfl, hpre⟩
    · have hlast : (inner.getLast? == some ';') = false := by
        rw [beq_eq_false_iff_ne]
        exact fun h => hnone ';' (List.mem_of_getLast? h) rfl
      simp [hlast, dropWhile_ne_eq_nil hnone, hletter, Except.toOption]
    · rw [takeWhile_ne_of_forall hpre, dropWhile_ne_of_forall hpre]
      cases after with
      | nil =>
        rw [List.getLast?_append, List.getLast?_singleton, List.dropLast_concat]
        cases Element.ofDotted? (slashesToDots pre) with
        | none => rfl
        | some e => cases e <;> rfl
      | cons a after =>
        -- the name would run over the first semicolon, and no name has one
        have hmem : ';' ∈ (pre ++ ';' :: a :: after).dropLast := by
          rw [List.dropLast_append_of_ne_nil (by simp), List.dropLast_cons_cons]
          simp
        have hleft := classOfDotted?_eq_none hd hmem
        refine Eq.trans (b := none) ?_ ?_
        · split
          · exact hleft
          · rw [hletter]
        · cases Element.ofDotted? (slashesToDots pre) with
          | none => rfl
          | some e => cases e <;> rfl
  · rfl

/-- A descriptor of a primitive type: nothing follows its letter. -/
theorem ofComplete?_eq_of_letter {tag : Char} (hrest : cs.dropWhile (· == '[') = tag :: inner) (htag : tag ≠ 'L') :
    ofComplete? cs = (ofDescriptor (String.ofList cs)).toOption := by
  have hbeq : (tag == 'L') = false := beq_eq_false_iff_ne.mpr htag
  unfold ofComplete? ofDescriptor parseFieldType
  rw [String.toList_ofList, hrest]
  simp only [hbeq, Bool.false_and, Bool.false_eq_true, if_false]
  split
  · cases Primitive.ofLetter? tag with
    | none => rfl
    | some p =>
      dsimp only
      by_cases hv : p = .void ∧ 0 < (cs.takeWhile (· == '[')).length
      · have hflag : (inner.isEmpty && !(p == .void && decide (0 < (cs.takeWhile (· == '[')).length))) = false := by
          simp [hv.1, hv.2]
        rw [dif_pos hv, dif_neg (by rw [hflag]; decide)]
        rfl
      · rw [dif_neg hv]
        cases inner with
        | nil =>
          have hflag : (!(p == .void && decide (0 < (cs.takeWhile (· == '[')).length))) = true := by
            rw [Bool.not_eq_true', ← Bool.not_eq_true, Bool.and_eq_true, beq_iff_eq, decide_eq_true_eq]
            exact hv
          rw [dif_pos (by rw [hflag]; rfl)]
          rfl
        | cons a inner =>
          rw [dif_neg (by simp)]
          rfl
  · rfl

end

/-- A complete descriptor is recognised exactly when it can be read. -/
theorem ofComplete?_eq (cs : List Char) : ofComplete? cs = (ofDescriptor (String.ofList cs)).toOption := by
  cases hrest : cs.dropWhile (· == '[') with
  | nil =>
    unfold ofComplete? ofDescriptor parseFieldType
    rw [String.toList_ofList, hrest]
    dsimp only
    split <;> rfl
  | cons tag inner =>
    by_cases htag : tag = 'L'
    · subst htag
      exact ofComplete?_eq_of_class hrest
    · exact ofComplete?_eq_of_letter hrest htag

/-- **Recognition agrees with reading**, on every text. -/
theorem find?_eq_toOption_of (text : String) : find? text = (of text).toOption := by
  unfold find? of
  dsimp only
  split
  · exact ofComplete?_eq _
  · rfl

end TypeDescriptor

/-! ## Looking types up -/

namespace InternTable

/-- The place that a table gives for a type's name holds that type: no other has the name. -/
theorem get?_of_find? {t : InternTable} {d : TypeDescriptor} {e : Entry} (h : t.find? d.name = some e) :
    t.get? e = some d := by
  obtain ⟨i, hi, rfl⟩ := Option.map_eq_some_iff.mp h
  obtain ⟨hlt, hname, -⟩ := Array.findIdx?_eq_some_iff_getElem.mp hi
  rw [get?, Array.getElem?_eq_getElem hlt, TypeDescriptor.name_injective (eq_of_beq hname)]

/-- A table gives no place for the name of a type that it lacks. -/
theorem find?_eq_none_iff {t : InternTable} {d : TypeDescriptor} : t.find? d.name = none ↔ d ∉ t.types := by
  rw [find?, Option.map_eq_none_iff, Array.findIdx?_eq_none_iff]
  constructor
  · intro h hd
    have := h d hd
    rw [beq_self_eq_true] at this
    cases this
  · intro h x hx
    rw [beq_eq_false_iff_ne]
    intro hname
    rw [TypeDescriptor.name_injective hname] at hx
    exact h hx

theorem exists_find?_iff {t : InternTable} {d : TypeDescriptor} : (∃ e, t.find? d.name = some e) ↔ d ∈ t.types := by
  rw [← Option.isSome_iff_exists, Option.isSome_iff_ne_none, Ne, find?_eq_none_iff, Decidable.not_not]

theorem lookup_eq_some_entry_iff {t : InternTable} {text : String} {e : Entry} :
    t.lookup text = some e ↔ ∃ d, TypeDescriptor.of text = .ok d ∧ t.find? d.name = some e := by
  simp only [lookup, TypeDescriptor.find?_eq_toOption_of, Option.bind_eq_some_iff, except_toOption_eq_some]

/-- **What a look-up finds**: the type that the text spells, if the table has it. It matters neither how the text
is spelled nor what else the table holds. -/
theorem lookup_eq_some_iff {t : InternTable} {text : String} {d : TypeDescriptor} :
    (t.lookup text).bind t.get? = some d ↔ TypeDescriptor.of text = .ok d ∧ d ∈ t.types := by
  rw [Option.bind_eq_some_iff]
  constructor
  · rintro ⟨e, hlookup, hheld⟩
    obtain ⟨spelled, hread, hfind⟩ := lookup_eq_some_entry_iff.mp hlookup
    rw [get?_of_find? hfind] at hheld
    cases hheld
    exact ⟨hread, exists_find?_iff.mp ⟨e, hfind⟩⟩
  · rintro ⟨hread, hd⟩
    obtain ⟨e, hfind⟩ := exists_find?_iff.mpr hd
    exact ⟨e, lookup_eq_some_entry_iff.mpr ⟨d, hread, hfind⟩, get?_of_find? hfind⟩

end InternTable

end ClassWeaver.Identity
