import ClassWeaver.Proofs.Identity.Spelling

/-!
# Conversions that invert each other

A type is obtained from a text of one of three grammars or from a primitive tag, and is rendered in each of the three
grammars again. Every rendering is read back as the same entry of the intern table, then and at any later time: the
table only grows, and the place of a type in it never changes. So the three renderings tell types apart.

Readings do not tell a slash from a dot. Their steps only ask for other characters, and the text that remains for a name
has its slashes turned into dots before it is looked at.

## Contents

* `of_eq_ok_of_slashesToDots` — slashes and dots may be exchanged.
* `InternTable.Extends`, `find?_intern`, `find?_of_extends` — a table that grew, and the places that stay.
* `InternTable.Interns` and `interns_of` with its siblings — readings through a table intern what they read.
* `Conversion`, `Conversion.run`, `Conversion.runAll` — the ways to obtain a type, and many of them in a row.
* `InternTable.ReadsBack`, `Conversion.invert` — the renderings of a type are read back as its entry.
-/

namespace ClassWeaver.Identity

open ClassWeaver.Text

/-! ## Exchanging slashes and dots -/

section

variable {cs : List Char}

/-- A question with the same answer for slashes as for dots does not see that slashes were turned into dots. -/
theorem comp_respelled {p : Char → Bool} (hp : p '/' = p '.') : (p ∘ fun c => if c == '/' then '.' else c) = p := by
  funext c
  rw [Function.comp_apply]
  by_cases hc : c = '/'
  · subst hc
    rw [beq_self_eq_true, if_pos rfl, hp]
  · rw [beq_eq_false_iff_ne.mpr hc, if_neg Bool.false_ne_true]

/-- Nor does a comparison with another character. -/
theorem respelled_beq {x : Char} (hslash : x ≠ '/') (hdot : x ≠ '.') (c : Char) :
    ((if c == '/' then '.' else c) == x) = (c == x) := by
  have hx : ('/' == x) = ('.' == x) := by
    rw [beq_eq_false_iff_ne.mpr hslash.symm, beq_eq_false_iff_ne.mpr hdot.symm]
  exact congrFun (comp_respelled (p := (· == x)) hx) c

theorem dropWhile_slashesToDots {p : Char → Bool} (hp : p '/' = p '.') :
    (slashesToDots cs).dropWhile p = slashesToDots (cs.dropWhile p) := by
  rw [slashesToDots, List.dropWhile_map, comp_respelled hp, slashesToDots]

theorem reverse_slashesToDots : (slashesToDots cs).reverse = slashesToDots cs.reverse :=
  List.map_reverse.symm

theorem trimChars_slashesToDots : trimChars (slashesToDots cs) = slashesToDots (trimChars cs) := by
  have hblank : isBlank '/' = isBlank '.' := by decide
  rw [trimChars, dropWhile_slashesToDots hblank, reverse_slashesToDots, dropWhile_slashesToDots hblank,
    reverse_slashesToDots, trimChars]

/-- What stands at an end of a text, if it is neither a slash nor a dot, stands there in the other spelling. -/
theorem head?_slashesToDots_beq {x : Char} (hslash : x ≠ '/') (hdot : x ≠ '.') :
    ((slashesToDots cs).head? == some x) = (cs.head? == some x) := by
  rw [slashesToDots, List.head?_map]
  cases cs.head? with
  | none => rfl
  | some c => exact respelled_beq hslash hdot c

theorem getLast?_slashesToDots_beq {x : Char} (hslash : x ≠ '/') (hdot : x ≠ '.') :
    ((slashesToDots cs).getLast? == some x) = (cs.getLast? == some x) := by
  rw [slashesToDots, List.getLast?_map]
  cases cs.getLast? with
  | none => rfl
  | some c => exact respelled_beq hslash hdot c

end

namespace TypeDescriptor

section

variable {cs : List Char} {d : TypeDescriptor}

theorem isDescriptorForm_slashesToDots : isDescriptorForm (slashesToDots cs) = isDescriptorForm cs := by
  rw [isDescriptorForm, head?_slashesToDots_beq (by decide) (by decide), head?_slashesToDots_beq (by decide) (by decide),
    getLast?_slashesToDots_beq (by decide) (by decide), isDescriptorForm]

theorem splitPairs_slashesToDots (n : Nat) :
    splitPairs n (slashesToDots cs) = ((splitPairs n cs).1, slashesToDots (splitPairs n cs).2) := by
  fun_induction splitPairs n cs with
  | case1 n rest ih => exact ih
  | case2 n rest hother =>
    -- no bracket comes from a slash
    rw [splitPairs.eq_def]
    split
    · rename_i after hafter
      exfalso
      obtain ⟨close, inner, rfl, hclose, hinner⟩ := List.map_eq_cons_iff.mp hafter
      obtain ⟨opening, outer, rfl, hopening, -⟩ := List.map_eq_cons_iff.mp hinner
      have hclose : close = ']' := by
        rw [← beq_iff_eq, ← respelled_beq (by decide) (by decide), hclose, beq_self_eq_true]
      have hopening : opening = '[' := by
        rw [← beq_iff_eq, ← respelled_beq (by decide) (by decide), hopening, beq_self_eq_true]
      subst hclose hopening
      exact hother outer rfl
    · rfl

theorem toOption_ofDotted_slashesToDots : (ofDotted (slashesToDots cs)).toOption = (ofDotted cs).toOption := by
  rw [ofDotted, ofDotted, reverse_slashesToDots, splitPairs_slashesToDots]
  dsimp only
  rw [reverse_slashesToDots, slashesToDots_idem]
  split
  · cases Element.ofDotted? (slashesToDots (splitPairs 0 cs.reverse).2.reverse) with
    | none => rfl
    | some element =>
      dsimp only
      split <;> rfl
  · rfl

/-- Descriptors are read with a dot for a slash anyway. -/
theorem toOption_ofDescriptor_slashesToDots :
    (ofDescriptor (String.ofList (slashesToDots cs))).toOption = (ofDescriptor (String.ofList cs)).toOption := by
  ext d
  rw [except_toOption_eq_some, except_toOption_eq_some, ofDescriptor_eq_ok_iff, ofDescriptor_eq_ok_iff, String.toList_ofList,
    String.toList_ofList, dotsToSlashes_respelled]

/-- **Slashes and dots may be exchanged**, all of them or some, in every text that is read as a type. -/
theorem of_eq_ok_of_slashesToDots {text other : String} (h : slashesToDots text.toList = slashesToDots other.toList)
    (hread : of text = .ok d) : of other = .ok d := by
  -- a refusal shows the text as it was spelled, so only what is read is the same
  have hrespelled : ∀ s : String, (of (String.ofList (slashesToDots s.toList))).toOption = (of s).toOption := by
    intro s
    rw [of, of, String.toList_ofList, trimChars_slashesToDots, isDescriptorForm_slashesToDots]
    split
    · exact toOption_ofDescriptor_slashesToDots
    · exact toOption_ofDotted_slashesToDots
  rw [← except_toOption_eq_some, ← hrespelled, ← h, hrespelled, except_toOption_eq_some, hread]

/-- **Each rendering determines the type**: it is read back. -/
theorem eq_of_renderings {a b : TypeDescriptor}
    (h : a.name = b.name ∨ a.descriptor = b.descriptor ∨ a.internalName = b.internalName) : a = b := by
  rcases h with hname | hdescriptor | hinternal
  · exact name_injective hname
  · have hread := a.ofDescriptor_descriptor
    rw [hdescriptor, ofDescriptor_descriptor] at hread
    exact (Except.ok.inj hread).symm
  · have hread := a.ofInternalName_internalName
    rw [hinternal, ofInternalName_internalName] at hread
    exact (Except.ok.inj hread).symm

end

end TypeDescriptor

/-! ## Tables that grow -/

namespace InternTable

variable {t u v : InternTable} {d : TypeDescriptor} {e : Entry}

/-- A table that keeps all entries of another and may have more behind them. -/
def Extends (t u : InternTable) : Prop :=
  ∃ more, u.types = t.types ++ more

theorem Extends.refl (t : InternTable) : t.Extends t :=
  ⟨#[], Array.append_empty.symm⟩

theorem Extends.of_extends (htu : t.Extends u) (huv : u.Extends v) : t.Extends v := by
  obtain ⟨more, hu⟩ := htu
  obtain ⟨rest, hv⟩ := huv
  exact ⟨more ++ rest, by rw [hv, hu, Array.append_assoc]⟩

/-- The place of a type stays the same however the table grows. -/
theorem find?_of_extends (h : t.Extends u) {name : String} (hfind : t.find? name = some e) : u.find? name = some e := by
  obtain ⟨more, hu⟩ := h
  obtain ⟨i, hi, rfl⟩ := Option.map_eq_some_iff.mp hfind
  rw [find?, hu, Array.findIdx?_append, hi, Option.some_or, Option.map_some]

/-- A type that was interned is found. -/
theorem find?_intern (t : InternTable) (d : TypeDescriptor) : (t.intern d).2.find? d.name = some (t.intern d).1 := by
  unfold intern
  split
  · assumption
  · rename_i hnone
    rw [find?, Option.map_eq_none_iff] at hnone
    rw [find?, Array.findIdx?_push, hnone, beq_self_eq_true, if_pos rfl, Option.none_or, Option.map_some]

theorem intern_of_find? (h : t.find? d.name = some e) : t.intern d = (e, t) := by
  rw [intern, h]

theorem extends_intern (t : InternTable) (d : TypeDescriptor) : t.Extends (t.intern d).2 := by
  unfold intern
  split
  · exact .refl t
  · exact ⟨#[d], Array.push_eq_append⟩

/-! ## Readings through a table -/

/-- What a reading through a table is to answer and to leave, given what the reading without the table comes to: it
interns the type that was read. A refusal may leave more types, too. -/
structure Interns (t : InternTable) (read : Except Violation TypeDescriptor)
    (result : Except Violation Entry × InternTable) : Prop where
  ok : ∀ d, read = .ok d → result = (.ok (t.intern d).1, (t.intern d).2)
  error : ∀ v, read = .error v → result.1 = .error v ∧ t.Extends result.2

theorem interns_internResult (t : InternTable) (read : Except Violation TypeDescriptor) :
    t.Interns read (t.internResult read) := by
  constructor
  · rintro d rfl
    rfl
  · rintro v rfl
    exact ⟨rfl, .refl t⟩

theorem interns_ofDescriptor (t : InternTable) (text : String) :
    t.Interns (TypeDescriptor.ofDescriptor text) (t.ofDescriptor text) := by
  unfold TypeDescriptor.ofDescriptor ofDescriptor fieldType
  cases TypeDescriptor.parseFieldType text.toList with
  | error v => exact t.interns_internResult (.error v)
  | ok read =>
    obtain ⟨d, rest⟩ := read
    cases rest with
    | nil => exact t.interns_internResult (.ok d)
    | cons c rest =>
      -- the type in front of the superfluous text is interned all the same
      exact ⟨nofun, by rintro v ⟨⟩; exact ⟨rfl, t.extends_intern d⟩⟩

theorem interns_of (t : InternTable) (text : String) : t.Interns (TypeDescriptor.of text) (t.of text) := by
  unfold TypeDescriptor.of of
  dsimp only
  split
  · exact t.interns_ofDescriptor _
  · exact t.interns_internResult _

theorem interns_ofInternalName (t : InternTable) (text : String) :
    t.Interns (TypeDescriptor.ofInternalName text) (t.ofInternalName text) := by
  unfold TypeDescriptor.ofInternalName ofInternalName
  split
  · exact t.interns_ofDescriptor _
  · exact t.interns_of _

section

variable {read : Except Violation TypeDescriptor} {result : Except Violation Entry × InternTable}

theorem Interns.extends (h : t.Interns read result) : t.Extends result.2 := by
  cases hread : read with
  | error v => exact (h.error v hread).2
  | ok d =>
    rw [h.ok d hread]
    exact t.extends_intern d

/-- A reading through a table that succeeds has read a type, whose entry it answers. -/
theorem Interns.exists_of_ok (h : t.Interns read (.ok e, u)) : ∃ d, read = .ok d ∧ t.intern d = (e, u) := by
  cases hread : read with
  | error v => cases (h.error v hread).1
  | ok d =>
    have hresult := h.ok d hread
    rw [Prod.mk.injEq, Except.ok.injEq] at hresult
    exact ⟨d, rfl, Prod.ext hresult.1.symm hresult.2.symm⟩

/-- A type that the table has is answered as its entry, and the table is left alone. -/
theorem Interns.eq_of_find? (h : t.Interns read result) (hread : read = .ok d) (hfind : t.find? d.name = some e) :
    result = (.ok e, t) := by
  rw [h.ok d hread, intern_of_find? hfind]

end

end InternTable

/-! ## Conversions -/

/-- The ways to obtain a type: from any spelling, from an internal name, from a binary descriptor, from a primitive
tag. -/
inductive Conversion
  | spelling (text : String)
  | internalName (text : String)
  | descriptor (text : String)
  | primitive (p : Primitive)

namespace Conversion

/-- The type that the conversion is about. -/
def read : Conversion → Except Violation TypeDescriptor
  | spelling text => TypeDescriptor.of text
  | internalName text => TypeDescriptor.ofInternalName text
  | descriptor text => TypeDescriptor.ofDescriptor text
  | primitive p => .ok (TypeDescriptor.ofPrimitive p)

/-- The conversion as it is done through a table. -/
def run : Conversion → InternTable → Except Violation Entry × InternTable
  | spelling text, t => t.of text
  | internalName text, t => t.ofInternalName text
  | descriptor text, t => t.ofDescriptor text
  | primitive p, t => (.ok (t.ofPrimitive p).1, (t.ofPrimitive p).2)

/-- The table behind conversions in a row, whether they succeed or fail. -/
def runAll (conversions : List Conversion) (t : InternTable) : InternTable :=
  conversions.foldl (fun t c => (c.run t).2) t

theorem interns (c : Conversion) (t : InternTable) : t.Interns c.read (c.run t) := by
  cases c with
  | spelling text => exact t.interns_of text
  | internalName text => exact t.interns_ofInternalName text
  | descriptor text => exact t.interns_ofDescriptor text
  | primitive p => exact t.interns_internResult (.ok (TypeDescriptor.ofPrimitive p))

/-- Conversions in a row take no entry away. -/
theorem extends_runAll (conversions : List Conversion) (t : InternTable) : t.Extends (runAll conversions t) := by
  induction conversions generalizing t with
  | nil => exact .refl t
  | cons c conversions ih => exact (c.interns t).extends.of_extends (ih (c.run t).2)

end Conversion

/-! ## Renderings are read back -/

/-- The renderings of a type are read back as an entry by a table that they leave as it is. -/
structure InternTable.ReadsBack (t : InternTable) (e : Entry) (d : TypeDescriptor) : Prop where
  held : t.get? e = some d
  name : t.of d.name = (.ok e, t)
  descriptor : t.ofDescriptor d.descriptor = (.ok e, t)
  internalName : t.ofInternalName d.internalName = (.ok e, t)
  /-- A descriptor is a spelling, except that the one of a primitive type could name a class. -/
  spelledDescriptor : d.isPrimitive = false → t.of d.descriptor = (.ok e, t)

/-- Whatever types a table holds besides: the renderings of the type it has at a place are read back as that place. -/
theorem InternTable.readsBack_of_find? {t : InternTable} {e : Entry} {d : TypeDescriptor}
    (h : t.find? d.name = some e) : t.ReadsBack e d where
  held := get?_of_find? h
  name := (t.interns_of _).eq_of_find? d.of_name h
  descriptor := (t.interns_ofDescriptor _).eq_of_find? d.ofDescriptor_descriptor h
  internalName := (t.interns_ofInternalName _).eq_of_find? d.ofInternalName_internalName h
  spelledDescriptor := fun hd => (t.interns_of _).eq_of_find? (TypeDescriptor.of_descriptor hd) h

namespace Conversion

variable {t u v : InternTable} {c : Conversion} {e : Entry}

/-- What a conversion obtained is found under its name from then on. -/
theorem exists_of_run (h : c.run t = (.ok e, u)) (hlater : u.Extends v) :
    ∃ d, c.read = .ok d ∧ v.find? d.name = some e := by
  obtain ⟨d, hread, hintern⟩ := (h ▸ c.interns t).exists_of_ok
  have hfind := t.find?_intern d
  rw [hintern] at hfind
  exact ⟨d, hread, InternTable.find?_of_extends hlater hfind⟩

/-- **Conversions invert each other.** Whatever is converted, from any text or tag and through any table, the renderings
of the type that was obtained are read back as the same entry at any later time; another conversion whose type has one
of the renderings in common answers the same entry; and of a text that is read as a type the slashes and dots may be
exchanged. -/
theorem invert (h : c.run t = (.ok e, u)) (hlater : u.Extends v) :
    ∃ d, c.read = .ok d ∧ v.ReadsBack e d ∧
      (∀ (c' : Conversion) (e' : Entry) (w : InternTable), c'.run v = (.ok e', w) →
        ∃ d', c'.read = .ok d' ∧ w.get? e' = some d' ∧
          (d'.name = d.name ∨ d'.descriptor = d.descriptor ∨ d'.internalName = d.internalName → e' = e)) ∧
      ∀ text other, slashesToDots text.toList = slashesToDots other.toList →
        ∀ (w w' : InternTable) (e' : Entry), w.of text = (.ok e', w') → w.of other = (.ok e', w') := by
  obtain ⟨d, hread, hfind⟩ := exists_of_run h hlater
  refine ⟨d, hread, InternTable.readsBack_of_find? hfind, ?_, ?_⟩
  · intro c' e' w hrun
    obtain ⟨d', hread', hintern⟩ := (hrun ▸ c'.interns v).exists_of_ok
    have hfind' := v.find?_intern d'
    rw [hintern] at hfind'
    refine ⟨d', hread', InternTable.get?_of_find? hfind', fun hsame => ?_⟩
    -- the two types are one, and the table has it already
    obtain rfl : d' = d := TypeDescriptor.eq_of_renderings hsame
    rw [InternTable.intern_of_find? hfind] at hintern
    exact (congrArg Prod.fst hintern).symm
  · intro text other hsame w w' e' hrun
    obtain ⟨d', hread', hintern⟩ := (hrun ▸ w.interns_of text).exists_of_ok
    rw [(w.interns_of other).ok d' (TypeDescriptor.of_eq_ok_of_slashesToDots hsame hread'), hintern]

/-- The array of arrays of strings. -/
def strings : TypeDescriptor :=
  ⟨.object ⟨"java.lang.String", by decide, by decide⟩, 2, by decide, nofun⟩

/-- An entry that was obtained from a name with slashes and a blank, after three more conversions, one of which fails behind
a type that it leaves interned. -/
theorem invert_strings :
    (spelling " java/lang/String[][]").run .empty = (.ok ⟨0⟩, ⟨#[strings]⟩) ∧
      (runAll [.primitive .int, .descriptor "Z;", .internalName "a/b"] ⟨#[strings]⟩).ReadsBack ⟨0⟩ strings := by
  have hread : (spelling " java/lang/String[][]").read = .ok strings := rfl
  have hrun : (spelling " java/lang/String[][]").run .empty = (.ok ⟨0⟩, ⟨#[strings]⟩) := by
    have hnew : InternTable.empty.find? strings.name = none :=
      InternTable.find?_eq_none_iff.mpr (by simp [InternTable.empty])
    rw [((spelling " java/lang/String[][]").interns .empty).ok strings hread, InternTable.intern, hnew]
    rfl
  obtain ⟨d, hd, hback, -⟩ :=
    invert hrun (extends_runAll [.primitive .int, .descriptor "Z;", .internalName "a/b"] _)
  rw [hread] at hd
  cases hd
  exact ⟨hrun, hback⟩

end Conversion

end ClassWeaver.Identity
