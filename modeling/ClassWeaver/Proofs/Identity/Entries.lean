import ClassWeaver.Proofs.Identity.Runs

/-!
# Entries and names

Two descriptors are one entry, or they have different names: nothing in between can come about, whatever calls share the
table and whichever of them fail. All that a call does to the table is to intern types, also where it is refused behind some
of them, and interning keeps every type under its own canonical name. Names tell types apart, so that comparing places,
comparing names and hashing names are three ways to ask the same.

## Contents

* `InternTable.internAll`, `InternTable.Canonical` — types interned in a row, and tables that keep types under their names.
* `arguments_eq_ok`, `methodTypes_eq_ok` — the types of a method are read through a table as they are read without one.
* `Call.types`, `Call.interns`, `Call.answers` — what a call does to a table, and what it answers.
* `Call.Answered`, `Call.entries_canonical` — the entries that any run answers.
-/

namespace ClassWeaver.Identity

/-! ## Tables under names -/

namespace InternTable

variable {t u v : InternTable} {d d' : TypeDescriptor} {e : Entry} {es : List Entry} {ds : List TypeDescriptor}

/-- A table with types interned one after the other. -/
def internAll (t : InternTable) (ds : List TypeDescriptor) : InternTable :=
  ds.foldl (fun t d => (t.intern d).2) t

theorem internAll_append (t : InternTable) (ds ds' : List TypeDescriptor) :
    t.internAll (ds ++ ds') = (t.internAll ds).internAll ds' :=
  List.foldl_append

theorem extends_internAll (t : InternTable) (ds : List TypeDescriptor) : t.Extends (t.internAll ds) := by
  induction ds generalizing t with
  | nil => exact .refl t
  | cons d ds ih => exact (t.extends_intern d).of_extends (ih (t.intern d).2)

/-- **An entry is never replaced**: its place holds the type from then on. -/
theorem get?_of_extends (h : t.Extends u) (hheld : t.get? e = some d) : u.get? e = some d := by
  obtain ⟨more, hu⟩ := h
  obtain ⟨hlt, -⟩ := Array.getElem?_eq_some_iff.mp hheld
  rw [get?, hu, Array.getElem?_append_left hlt]
  exact hheld

theorem map_get?_of_extends (h : t.Extends u) (hheld : es.map t.get? = ds.map some) : es.map u.get? = ds.map some := by
  induction es generalizing ds with
  | nil =>
    obtain rfl := List.map_eq_nil_iff.mp hheld.symm
    rfl
  | cons e es ih =>
    obtain ⟨d, ds, rfl, hd, hds⟩ := List.map_eq_cons_iff.mp hheld.symm
    rw [List.map_cons, List.map_cons, get?_of_extends h hd.symm, ih hds.symm]

theorem get?_intern (t : InternTable) (d : TypeDescriptor) : (t.intern d).2.get? (t.intern d).1 = some d :=
  get?_of_find? (t.find?_intern d)

/-- Every type is kept under its own canonical name, and a name leads nowhere else. -/
def Canonical (t : InternTable) : Prop :=
  ∀ name e, t.find? name = some e ↔ ∃ d, t.get? e = some d ∧ d.name = name

theorem canonical_empty : empty.Canonical := by
  intro name e
  have hnone : empty.find? name = none := by rw [find?, empty, Array.findIdx?_empty, Option.map_none]
  rw [hnone]
  constructor
  · intro h
    cases h
  · rintro ⟨d, hd, -⟩
    cases hd

/-- What stands in a table after a type was interned: what stood there before, and the type. -/
theorem get?_of_intern (h : (t.intern d).2.get? e = some d') : t.get? e = some d' ∨ (t.intern d).1 = e ∧ d' = d := by
  unfold intern at h ⊢
  split at h
  · exact .inl h
  · rename_i hnone
    rw [get?, Array.getElem?_push] at h
    split at h
    · rename_i hplace
      cases h
      exact .inr ⟨congrArg Entry.mk hplace.symm, rfl⟩
    · exact .inl h

/-- **Interning keeps types under their names.** -/
theorem Canonical.intern (h : t.Canonical) (d : TypeDescriptor) : (t.intern d).2.Canonical := by
  intro name e
  constructor
  · intro hfind
    obtain ⟨i, hi, rfl⟩ := Option.map_eq_some_iff.mp hfind
    obtain ⟨hlt, hname, -⟩ := Array.findIdx?_eq_some_iff_getElem.mp hi
    exact ⟨_, Array.getElem?_eq_getElem hlt, eq_of_beq hname⟩
  · rintro ⟨held, hheld, rfl⟩
    rcases get?_of_intern hheld with hbefore | ⟨rfl, rfl⟩
    · exact find?_of_extends (t.extends_intern d) ((h _ _).mpr ⟨held, hbefore, rfl⟩)
    · exact t.find?_intern held

theorem Canonical.internAll (h : t.Canonical) (ds : List TypeDescriptor) : (t.internAll ds).Canonical := by
  induction ds generalizing t with
  | nil => exact h
  | cons d ds ih => exact ih (h.intern d)

/-- In such a table a type has one place. -/
theorem Canonical.eq_of_get? (h : t.Canonical) {e' : Entry} (he : t.get? e = some d) (he' : t.get? e' = some d) : e = e' := by
  have hfind := (h d.name e).mpr ⟨d, he, rfl⟩
  rw [(h d.name e').mpr ⟨d, he', rfl⟩] at hfind
  exact (Option.some.inj hfind).symm

/-! ## The types of methods -/

section

variable {whole : String} {types all : List TypeDescriptor} {read : List Entry} {input rest : List Char} {fault : Violation}

/-- **Arguments are read through a table as they are read without one**, and interned in their order. -/
theorem arguments_eq_ok (h : MethodDescriptor.parseArguments whole types input = .ok (all, rest)) (t : InternTable)
    (read : List Entry) : ∃ ds es, all = types.reverse ++ ds ∧
      t.arguments whole read input = (.ok (read.reverse ++ es, rest), t.internAll ds) ∧
        es.map (t.internAll ds).get? = ds.map some := by
  fun_induction MethodDescriptor.parseArguments whole types input generalizing t read with
  | case1 => cases h
  | case2 types c rest hclose =>
    cases h
    refine ⟨[], [], (List.append_nil _).symm, ?_, rfl⟩
    rw [arguments, if_pos hclose, List.append_nil]
    rfl
  | case3 => cases h
  | case4 types c rest hclose type after hread ih =>
    obtain ⟨ds, es, rfl, hbehind, hheld⟩ := ih h (t.intern type).2 ((t.intern type).1 :: read)
    refine ⟨type :: ds, (t.intern type).1 :: es, ?_, ?_, ?_⟩
    · rw [List.reverse_cons, List.append_assoc, List.singleton_append]
    · rw [List.reverse_cons, List.append_assoc, List.singleton_append] at hbehind
      rw [arguments, if_neg hclose]
      split
      · rename_i hfault
        rw [hread] at hfault
        cases hfault
      · rename_i hok
        rw [hread] at hok
        cases hok
        exact hbehind
    · rw [List.map_cons, List.map_cons, ← hheld]
      refine congrArg (· :: _) ?_
      exact get?_of_extends ((t.intern type).2.extends_internAll ds) (t.get?_intern type)

/-- Where the arguments are refused, those in front stay interned. -/
theorem arguments_eq_error (h : MethodDescriptor.parseArguments whole types input = .error fault) (t : InternTable)
    (read : List Entry) : ∃ ds, t.arguments whole read input = (.error fault, t.internAll ds) := by
  fun_induction MethodDescriptor.parseArguments whole types input generalizing t read with
  | case1 =>
    cases h
    exact ⟨[], by rw [arguments]; rfl⟩
  | case2 => cases h
  | case3 types c rest hclose v hread =>
    cases h
    refine ⟨[], ?_⟩
    rw [arguments, if_neg hclose]
    split
    · rename_i hfault
      rw [hread] at hfault
      cases hfault
      rfl
    · rename_i hok
      rw [hread] at hok
      cases hok
  | case4 types c rest hclose type after hread ih =>
    obtain ⟨ds, hbehind⟩ := ih h (t.intern type).2 ((t.intern type).1 :: read)
    refine ⟨type :: ds, ?_⟩
    rw [arguments, if_neg hclose]
    split
    · rename_i hfault
      rw [hread] at hfault
      cases hfault
    · rename_i hok
      rw [hread] at hok
      cases hok
      exact hbehind

end

/-- A descriptor that is refused leaves a type in front of superfluous text interned, or none. -/
theorem exists_internAll_ofDescriptor (t : InternTable) (text : String) : ∃ ds, (t.ofDescriptor text).2 = t.internAll ds := by
  unfold ofDescriptor fieldType
  cases TypeDescriptor.parseFieldType text.toList with
  | error v => exact ⟨[], rfl⟩
  | ok found =>
    obtain ⟨d, rest⟩ := found
    refine ⟨[d], ?_⟩
    cases rest with
    | nil => rfl
    | cons c rest => rfl

end InternTable

/-- The types in a method's descriptor, the one to return last. -/
def MethodDescriptor.types (text : String) : Except Violation (List TypeDescriptor) :=
  match text.toList with
  | '(' :: input => do
    let (arguments, rest) ← parseArguments text [] input
    let returned ← TypeDescriptor.ofDescriptor (String.ofList rest)
    return arguments ++ [returned]
  | _ => .error (.invalidDescriptor text)

/-- They are the types of the method that is read from the descriptor, under whatever name. -/
theorem MethodDescriptor.types_of_parse {name text : String} {isStatic : Bool} {m : MethodDescriptor}
    (h : parse name text isStatic = .ok m) : types text = .ok (m.arguments ++ [m.returnType]) := by
  unfold parse at h
  split at h
  · rename_i input htext
    obtain ⟨⟨arguments, rest⟩, harguments, h⟩ := except_bind_eq_ok.mp h
    obtain ⟨returned, hreturned, h⟩ := except_bind_eq_ok.mp h
    obtain ⟨-, rfl, rfl, -⟩ := mk?_eq_ok_iff.mp h
    unfold types
    rw [htext]
    exact except_bind_eq_ok.mpr ⟨_, harguments, except_bind_eq_ok.mpr ⟨_, hreturned, rfl⟩⟩
  · cases h

namespace InternTable

variable {text : String} {ds : List TypeDescriptor} {fault : Violation}

/-- **The types of a method are read through a table as they are read without one.** -/
theorem methodTypes_eq_ok (h : MethodDescriptor.types text = .ok ds) (t : InternTable) :
    ∃ arguments returned, t.methodTypes text = (.ok (arguments, returned), t.internAll ds) ∧
      (arguments ++ [returned]).map (t.internAll ds).get? = ds.map some := by
  unfold MethodDescriptor.types at h
  split at h
  · rename_i input htext
    obtain ⟨⟨types, rest⟩, htypes, h⟩ := except_bind_eq_ok.mp h
    obtain ⟨d, hd, h⟩ := except_bind_eq_ok.mp h
    cases h
    obtain ⟨ds, es, hds, harguments, hheld⟩ := arguments_eq_ok htypes t []
    obtain rfl : types = ds := hds
    have hreturned := ((t.internAll types).interns_ofDescriptor (String.ofList rest)).ok d hd
    unfold methodTypes
    simp only [htext, harguments, hreturned, internAll_append]
    refine ⟨es, ((t.internAll types).intern d).1, rfl, ?_⟩
    rw [List.map_append, List.map_append, map_get?_of_extends (extends_internAll _ [d]) hheld]
    exact congrArg (types.map some ++ [·]) ((t.internAll types).get?_intern d)
  · cases h

/-- Where the descriptor is refused, the types in front of the fault stay interned. -/
theorem methodTypes_eq_error (h : MethodDescriptor.types text = .error fault) (t : InternTable) :
    ∃ ds, t.methodTypes text = (.error fault, t.internAll ds) := by
  unfold MethodDescriptor.types at h
  split at h
  · rename_i input htext
    unfold methodTypes
    simp only [htext]
    rcases except_bind_eq_error.mp h with harguments | ⟨⟨types, rest⟩, harguments, h⟩
    · obtain ⟨ds, hrefused⟩ := arguments_eq_error harguments t []
      rw [hrefused]
      exact ⟨ds, rfl⟩
    · obtain ⟨ds, es, -, hread, -⟩ := arguments_eq_ok harguments t []
      rw [hread]
      rcases except_bind_eq_error.mp h with hreturned | ⟨d, -, h⟩
      · obtain ⟨hfault, -⟩ := ((t.internAll ds).interns_ofDescriptor (String.ofList rest)).error fault hreturned
        obtain ⟨more, hmore⟩ := (t.internAll ds).exists_internAll_ofDescriptor (String.ofList rest)
        have hbehind : (t.internAll ds).ofDescriptor (String.ofList rest) = (.error fault, t.internAll (ds ++ more)) :=
          Prod.ext hfault (hmore.trans (t.internAll_append ds more).symm)
        dsimp only
        rw [hbehind]
        exact ⟨ds ++ more, rfl⟩
      · cases h
  · rename_i hother
    cases h
    refine ⟨[], ?_⟩
    unfold methodTypes
    split
    · rename_i input htext
      exact absurd htext (hother input)
    · rfl

end InternTable

/-! ## Single calls -/

namespace Call

variable {t u : InternTable}

/-- The types whose entries a call answers: those that are read, none if the reading fails; a look-up reads only what the
table has. -/
def types (t : InternTable) : Call → List TypeDescriptor
  | convert c => c.read.toOption.toList
  | fieldType input => ((TypeDescriptor.parseFieldType input).toOption.map Prod.fst).toList
  | methodTypes descriptor => (MethodDescriptor.types descriptor).toOption.getD []
  | lookup text => ((TypeDescriptor.of text).toOption.filter (t.types.contains ·)).toList

/-- A conversion interns nothing but what it reads, or what stood in front of superfluous text. -/
theorem exists_internAll_of_convert (c : Conversion) (t : InternTable) : ∃ ds, (c.run t).2 = t.internAll ds := by
  have hresult (read : Except Violation TypeDescriptor) : ∃ ds, (t.internResult read).2 = t.internAll ds := by
    cases read with
    | error v => exact ⟨[], rfl⟩
    | ok d => exact ⟨[d], rfl⟩
  have hof (text : String) : ∃ ds, (t.of text).2 = t.internAll ds := by
    unfold InternTable.of
    by_cases hform : TypeDescriptor.isDescriptorForm (Text.trimChars text.toList) = true
    · rw [if_pos hform]
      exact t.exists_internAll_ofDescriptor _
    · rw [if_neg hform]
      exact hresult _
  cases c with
  | spelling text => exact hof text
  | descriptor text => exact t.exists_internAll_ofDescriptor text
  | primitive p => exact hresult (.ok (TypeDescriptor.ofPrimitive p))
  | internalName text =>
    show ∃ ds, (t.ofInternalName text).2 = t.internAll ds
    unfold InternTable.ofInternalName
    by_cases hhead : (text.toList.head? == some '[') = true
    · rw [if_pos hhead]
      exact t.exists_internAll_ofDescriptor text
    · rw [if_neg hhead]
      exact hof text

/-- **All that a call does to a table is to intern types**, whether it succeeds or fails. -/
theorem exists_internAll (call : Call) (t : InternTable) : ∃ ds, (call.run t).2 = t.internAll ds := by
  cases call with
  | convert c =>
    obtain ⟨ds, hds⟩ := exists_internAll_of_convert c t
    refine ⟨ds, ?_⟩
    rw [run]
    rcases hrun : c.run t with ⟨v | e, u⟩
    · rw [hrun] at hds
      exact hds
    · rw [hrun] at hds
      exact hds
  | fieldType input =>
    rw [run, InternTable.fieldType]
    rcases TypeDescriptor.parseFieldType input with v | ⟨d, rest⟩
    · exact ⟨[], rfl⟩
    · exact ⟨[d], rfl⟩
  | methodTypes descriptor =>
    rw [run]
    cases htypes : MethodDescriptor.types descriptor with
    | error v =>
      obtain ⟨ds, hds⟩ := InternTable.methodTypes_eq_error htypes t
      rw [hds]
      exact ⟨ds, rfl⟩
    | ok ds =>
      obtain ⟨arguments, returned, hds, -⟩ := InternTable.methodTypes_eq_ok htypes t
      rw [hds]
      exact ⟨ds, rfl⟩
  | lookup text => exact ⟨[], rfl⟩

/-- A look-up answers the entry of what it reads, if the table has it. -/
theorem map_get?_lookup (text : String) (t : InternTable) :
    ((lookup text).run t).1.map ((lookup text).run t).2.get? = ((lookup text).types t).map some := by
  rw [run, types]
  dsimp only
  cases hlookup : t.lookup text with
  | none =>
    cases hread : (TypeDescriptor.of text).toOption with
    | none => rfl
    | some d =>
      have hd : d ∉ t.types := by
        intro hd
        obtain ⟨e, hfind⟩ := InternTable.exists_find?_iff.mpr hd
        rw [InternTable.lookup_eq_some_entry_iff.mpr ⟨d, except_toOption_eq_some.mp hread, hfind⟩] at hlookup
        cases hlookup
      simp [Option.filter, hd]
  | some e =>
    obtain ⟨d, hread, hfind⟩ := InternTable.lookup_eq_some_entry_iff.mp hlookup
    have hd : d ∈ t.types := InternTable.exists_find?_iff.mp ⟨e, hfind⟩
    simp [Option.filter, except_toOption_eq_some.mpr hread, hd, InternTable.get?_of_find? hfind]

/-- **A call answers the entries of the types that it reads**, in their order. -/
theorem map_get?_run (call : Call) (t : InternTable) :
    (call.run t).1.map (call.run t).2.get? = (call.types t).map some := by
  cases call with
  | convert c =>
    rw [run, types]
    cases hread : c.read with
    | error v =>
      obtain ⟨hfault, -⟩ := (c.interns t).error v hread
      rcases hrun : c.run t with ⟨w | e, u⟩
      · rfl
      · rw [hrun] at hfault
        cases hfault
    | ok d =>
      rw [(c.interns t).ok d hread]
      exact congrArg ([·]) (t.get?_intern d)
  | fieldType input =>
    rw [run, types, InternTable.fieldType]
    rcases TypeDescriptor.parseFieldType input with v | ⟨d, rest⟩
    · rfl
    · exact congrArg ([·]) (t.get?_intern d)
  | methodTypes descriptor =>
    rw [run, types]
    cases htypes : MethodDescriptor.types descriptor with
    | error v =>
      obtain ⟨ds, hds⟩ := InternTable.methodTypes_eq_error htypes t
      rw [hds]
      rfl
    | ok ds =>
      obtain ⟨arguments, returned, hds, hheld⟩ := InternTable.methodTypes_eq_ok htypes t
      rw [hds]
      exact hheld
  | lookup text => exact map_get?_lookup text t

/-! ## Runs -/

/-- A run leaves a table that keeps types under their names, if it starts from one. -/
theorem canonical_runAll (calls : List Call) (h : t.Canonical) : (runAll calls t).2.Canonical := by
  induction calls generalizing t with
  | nil => exact h
  | cons call calls ih =>
    obtain ⟨ds, hds⟩ := call.exists_internAll t
    exact ih (hds ▸ h.internAll ds)

/-- A run takes no entry away. -/
theorem extends_runAll (calls : List Call) (t : InternTable) : t.Extends (runAll calls t).2 := by
  induction calls generalizing t with
  | nil => exact .refl t
  | cons call calls ih =>
    obtain ⟨ds, hds⟩ := call.exists_internAll t
    exact (hds ▸ t.extends_internAll ds).of_extends (ih (call.run t).2)

theorem extends_runAll_append (before after : List Call) (t : InternTable) :
    (runAll before t).2.Extends (runAll (before ++ after) t).2 := by
  rw [runAll_append]
  exact extends_runAll after _

/-- At some place of a run from the empty table, a call answered an entry, which held a type. -/
def Answered (calls : List Call) (e : Entry) (d : TypeDescriptor) : Prop :=
  ∃ before call after, calls = before ++ call :: after ∧
    e ∈ (call.run (runAll before .empty).2).1 ∧ (call.run (runAll before .empty).2).2.get? e = some d

/-- What was answered is in the table behind the run. -/
theorem Answered.get? {calls : List Call} {e : Entry} {d : TypeDescriptor} (h : Answered calls e d) :
    (runAll calls .empty).2.get? e = some d := by
  obtain ⟨before, call, after, rfl, -, hheld⟩ := h
  rw [runAll_append]
  exact InternTable.get?_of_extends (extends_runAll after _) hheld

end Call

namespace TypeDescriptor

/-- Canonical names are in the order of their characters, so neither comes behind the other only if they are equal. -/
theorem le_antisymm_iff {a b : TypeDescriptor} : a.le b = true ∧ b.le a = true ↔ a.name = b.name := by
  unfold le
  rw [decide_eq_true_iff, decide_eq_true_iff]
  constructor
  · exact fun h => String.le_antisymm h.1 h.2
  · intro h
    rw [h]
    exact ⟨String.le_refl _, String.le_refl _⟩

end TypeDescriptor


namespace Call

/-- **An entry is its canonical name.** Whatever calls were made from the empty table on, failing ones included: the table
has only grown and kept every entry that it had, every entry stands under its own canonical name, and every call has
answered the entries of the types that it reads, those of a method being its arguments and what it returns. Two types that
were answered anywhere in the run are one entry if and only if their names are equal, that is, if neither comes behind the
other; and then nothing tells them apart: not what they are made of, not how they are spelled, and not what they are
hashed to. -/
theorem entries_canonical (calls : List Call) :
    (∀ before after, calls = before ++ after → (runAll before .empty).2.Extends (runAll calls .empty).2) ∧
      (runAll calls .empty).2.Canonical ∧
      (∀ before call after, calls = before ++ call :: after →
        (call.run (runAll before .empty).2).1.map (runAll calls .empty).2.get? =
          (call.types (runAll before .empty).2).map some) ∧
      (∀ name text isStatic m t, MethodDescriptor.parse name text isStatic = .ok m →
        (methodTypes text).types t = m.arguments ++ [m.returnType]) ∧
      ∀ e₁ d₁ e₂ d₂, Answered calls e₁ d₁ → Answered calls e₂ d₂ →
        (e₁ = e₂ ↔ d₁.name = d₂.name) ∧
        (e₁ = e₂ ↔ d₁.le d₂ = true ∧ d₂.le d₁ = true) ∧
        (e₁ = e₂ → d₁.element = d₂.element ∧ d₁.dimensions = d₂.dimensions ∧ d₁.primitive? = d₂.primitive? ∧
          d₁.slots = d₂.slots ∧ d₁.descriptor = d₂.descriptor ∧ d₁.internalName = d₂.internalName ∧
          ∀ (σ : Type) (write : String → σ → σ) (state : σ), d₁.hashInto write state = d₂.hashInto write state) := by
  have hcanonical : (runAll calls .empty).2.Canonical := canonical_runAll calls InternTable.canonical_empty
  refine ⟨?_, hcanonical, ?_, ?_, ?_⟩
  · rintro before after rfl
    exact extends_runAll_append before after .empty
  · rintro before call after rfl
    rw [runAll_append]
    exact InternTable.map_get?_of_extends (extends_runAll after _) (call.map_get?_run _)
  · intro name text isStatic m t h
    rw [types, MethodDescriptor.types_of_parse h]
    rfl
  · intro e₁ d₁ e₂ d₂ h₁ h₂
    have hsame : e₁ = e₂ ↔ d₁ = d₂ := by
      constructor
      · rintro rfl
        exact Option.some.inj (h₁.get?.symm.trans h₂.get?)
      · rintro rfl
        exact hcanonical.eq_of_get? h₁.get? h₂.get?
    -- a name is the name of one type only
    have hname : e₁ = e₂ ↔ d₁.name = d₂.name :=
      hsame.trans ⟨congrArg TypeDescriptor.name, TypeDescriptor.name_injective⟩
    refine ⟨hname, hname.trans TypeDescriptor.le_antisymm_iff.symm, fun he => ?_⟩
    obtain rfl := hsame.mp he
    exact ⟨rfl, rfl, rfl, rfl, rfl, rfl, fun _ _ _ => rfl⟩

/-- A type that is refused with superfluous text behind it, a field type off the front of a text, a method that is refused
behind two types, a name with slashes and blanks, and a look-up. -/
def mixedCalls : List Call :=
  [convert (.descriptor "I;"), fieldType "[[Ljava/lang/String;II".toList, methodTypes "(J[[Ljava/lang/String;V",
    convert (.spelling " java/lang/String[][] "), lookup "int"]

/-- In that run the array of arrays of strings is answered as one entry by two calls, and the integers, interned by the call
that failed, as another. -/
theorem entries_canonical_mixed :
    (runAll mixedCalls .empty).1 = [[], [⟨1⟩], [], [⟨1⟩], [⟨0⟩]] ∧
      (runAll (mixedCalls.take 1) .empty).2.Extends (runAll mixedCalls .empty).2 ∧
      Answered mixedCalls ⟨1⟩ Conversion.strings ∧ Answered mixedCalls ⟨0⟩ (.ofPrimitive .int) ∧
      ((⟨1⟩ : Entry) = ⟨0⟩ ↔ Conversion.strings.name = (TypeDescriptor.ofPrimitive .int).name) ∧
      ∃ m, MethodDescriptor.parse "swap" "(JI)V" true = .ok m ∧
        (methodTypes "(JI)V").types .empty = m.arguments ++ [m.returnType] := by
  obtain ⟨hgrows, -, -, hmethods, hentries⟩ := entries_canonical mixedCalls
  have hstrings : Answered mixedCalls ⟨1⟩ Conversion.strings :=
    ⟨mixedCalls.take 3, convert (.spelling " java/lang/String[][] "), mixedCalls.drop 4, rfl, by decide +kernel,
      by decide +kernel⟩
  have hintegers : Answered mixedCalls ⟨0⟩ (.ofPrimitive .int) :=
    ⟨mixedCalls.take 4, lookup "int", [], rfl, by decide +kernel, by decide +kernel⟩
  have hparse : MethodDescriptor.parse "swap" "(JI)V" true =
      .ok ⟨"swap", [.ofPrimitive .long, .ofPrimitive .int], .ofPrimitive .void, true, by decide, by decide⟩ :=
    MethodDescriptor.parse_descriptor ⟨"swap", [.ofPrimitive .long, .ofPrimitive .int], .ofPrimitive .void, true, by decide,
      by decide⟩
  exact ⟨by decide +kernel, hgrows (mixedCalls.take 1) (mixedCalls.drop 1) rfl, hstrings, hintegers,
    (hentries _ _ _ _ hstrings hintegers).1, _, hparse, hmethods _ _ _ _ _ hparse⟩

end Call

end ClassWeaver.Identity
