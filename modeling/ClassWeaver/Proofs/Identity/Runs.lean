import ClassWeaver.Proofs.Identity.Conversions

/-!
# Calls in a row

Types are converted, read and looked up by calls that share one table, and what a call answers depends on the calls in
front of it. A look-up is the one call of which nothing depends: it answers the entry that a reading of the text would
answer, if the reading had nothing to add, and where it stands in a run the calls around it cannot tell.

## Contents

* `Call`, `Call.run`, `Call.runAll` — calls, and runs of them with their answers.
* `runAll_append` — a run falls apart at any place.
* `InternTable.lookup_agrees` — what a look-up answers, and that it leaves no trace.
-/

namespace ClassWeaver.Identity

/-! ## Runs -/

/-- The calls that are answered with entries: conversions of whole texts and tags, readings of a field type off the front of
a text and of the types of a method's descriptor, and look-ups. -/
inductive Call
  | convert (c : Conversion)
  | fieldType (input : List Char)
  | methodTypes (descriptor : String)
  | lookup (text : String)

namespace Call

/-- The entries that a call answers, none if it fails, and the table that it leaves. -/
def run : Call → InternTable → List Entry × InternTable
  | convert c, t =>
    match c.run t with
    | (.ok e, t) => ([e], t)
    | (.error _, t) => ([], t)
  | fieldType input, t =>
    match t.fieldType input with
    | (.ok (e, _), t) => ([e], t)
    | (.error _, t) => ([], t)
  | methodTypes descriptor, t =>
    match t.methodTypes descriptor with
    | (.ok (arguments, returned), t) => (arguments ++ [returned], t)
    | (.error _, t) => ([], t)
  | lookup text, t => ((t.lookup text).toList, t)

/-- What calls in a row answer, and the table behind them. -/
def runAll : List Call → InternTable → List (List Entry) × InternTable
  | [], t => ([], t)
  | call :: calls, t =>
    let (answer, t) := call.run t
    let (answers, t) := runAll calls t
    (answer :: answers, t)

theorem length_runAll (calls : List Call) (t : InternTable) : (runAll calls t).1.length = calls.length := by
  induction calls generalizing t with
  | nil => rfl
  | cons call calls ih => exact congrArg (· + 1) (ih (call.run t).2)

/-- **A run falls apart at any place** into the run up to there and the run from there on. -/
theorem runAll_append (before after : List Call) (t : InternTable) :
    runAll (before ++ after) t = ((runAll before t).1 ++ (runAll after (runAll before t).2).1,
      (runAll after (runAll before t).2).2) := by
  induction before generalizing t with
  | nil => rfl
  | cons call before ih =>
    rw [List.cons_append, runAll, runAll]
    dsimp only
    rw [ih, List.cons_append]

end Call

/-! ## Look-ups -/

namespace InternTable

variable {t u : InternTable} {text : String} {d : TypeDescriptor} {e : Entry}

/-- A reading through the table that has nothing to add answers what a look-up answers. -/
theorem of_eq_of_lookup (h : t.lookup text = some e) : t.of text = (.ok e, t) := by
  obtain ⟨d, hread, hfind⟩ := lookup_eq_some_entry_iff.mp h
  exact (t.interns_of text).eq_of_find? hread hfind

/-- A look-up answers what a reading answers, if the type was in the table before. -/
theorem lookup_of_of (h : t.of text = (.ok e, u)) (hheld : u.get? e = some d) (hd : d ∈ t.types) :
    t.lookup text = some e := by
  obtain ⟨spelled, hread, hintern⟩ := (h ▸ t.interns_of text).exists_of_ok
  have hbehind := t.find?_intern spelled
  rw [hintern] at hbehind
  obtain rfl : spelled = d := Option.some.inj ((get?_of_find? hbehind).symm.trans hheld)
  -- the type had a place before, so the reading answered that one
  obtain ⟨e', hfind⟩ := exists_find?_iff.mpr hd
  rw [intern_of_find? hfind] at hintern
  cases hintern
  exact lookup_eq_some_entry_iff.mpr ⟨spelled, hread, hfind⟩

/-- **Look-ups agree with readings**, in every table: a look-up of a text answers an entry if and only if a reading of the
text would answer it and the table holds a type of its canonical name already, and then the reading would add nothing
either; else it answers none, as it does of every text that cannot be read. It never changes the table: in any run, a
look-up more or less makes no difference to what the other calls answer or to the table behind them. -/
theorem lookup_agrees (t : InternTable) (text : String) :
    (∀ e, t.lookup text = some e ↔
      ∃ d u, t.of text = (.ok e, u) ∧ u.get? e = some d ∧ ∃ held ∈ t.types, held.name = d.name) ∧
      (t.lookup text = none ↔ ∀ e d u, t.of text = (.ok e, u) → u.get? e = some d →
        ∀ held ∈ t.types, held.name ≠ d.name) ∧
      (∀ v u, t.of text = (.error v, u) → t.lookup text = none) ∧
      (∀ e, t.lookup text = some e → t.of text = (.ok e, t)) ∧
      ∀ before after : List Call,
        (Call.runAll (before ++ .lookup text :: after) t).2 = (Call.runAll (before ++ after) t).2 ∧
          (Call.runAll (before ++ .lookup text :: after) t).1.eraseIdx before.length =
            (Call.runAll (before ++ after) t).1 := by
  have hagrees (e : Entry) : t.lookup text = some e ↔
      ∃ d u, t.of text = (.ok e, u) ∧ u.get? e = some d ∧ ∃ held ∈ t.types, held.name = d.name := by
    constructor
    · intro h
      obtain ⟨d, -, hfind⟩ := lookup_eq_some_entry_iff.mp h
      exact ⟨d, t, of_eq_of_lookup h, get?_of_find? hfind, d, exists_find?_iff.mp ⟨e, hfind⟩, rfl⟩
    · rintro ⟨d, u, hof, hheld, held, hmem, hname⟩
      exact lookup_of_of hof hheld (TypeDescriptor.name_injective hname ▸ hmem)
  refine ⟨hagrees, ?_, ?_, fun e => of_eq_of_lookup, fun before after => ?_⟩
  · rw [Option.eq_none_iff_forall_ne_some]
    constructor
    · exact fun h e d u hof hheld held hmem hname => h e ((hagrees e).mpr ⟨d, u, hof, hheld, held, hmem, hname⟩)
    · intro h e hlookup
      obtain ⟨d, u, hof, hheld, held, hmem, hname⟩ := (hagrees e).mp hlookup
      exact h e d u hof hheld held hmem hname
  · intro v u hof
    refine Option.eq_none_iff_forall_ne_some.mpr fun e hlookup => ?_
    rw [of_eq_of_lookup hlookup] at hof
    cases hof
  · rw [Call.runAll_append, Call.runAll_append, Call.runAll, Call.run]
    refine ⟨rfl, ?_⟩
    rw [← Call.length_runAll before t, List.eraseIdx_append_of_length_le (Nat.le_refl _), Nat.sub_self,
      List.eraseIdx_cons_zero]

/-- In a table with one type: its descriptor is looked up and read to the same end, and a second semicolon is refused by both. -/
theorem lookup_agrees_strings :
    InternTable.lookup ⟨#[Conversion.strings]⟩ "[[Ljava/lang/String;" = some ⟨0⟩ ∧
      InternTable.of ⟨#[Conversion.strings]⟩ "[[Ljava/lang/String;" = (.ok ⟨0⟩, ⟨#[Conversion.strings]⟩) ∧
      InternTable.lookup ⟨#[Conversion.strings]⟩ "[[Ljava/lang/String;;" = none := by
  have hread : TypeDescriptor.of "[[Ljava/lang/String;" = .ok Conversion.strings := rfl
  have hfind : InternTable.find? ⟨#[Conversion.strings]⟩ Conversion.strings.name = some ⟨0⟩ := by
    simp [InternTable.find?, List.findIdx?_cons]
  have hlookup := lookup_eq_some_entry_iff.mpr ⟨_, hread, hfind⟩
  obtain ⟨-, -, -, hadds, -⟩ := lookup_agrees ⟨#[Conversion.strings]⟩ "[[Ljava/lang/String;"
  obtain ⟨-, -, hrefused, -⟩ := lookup_agrees ⟨#[Conversion.strings]⟩ "[[Ljava/lang/String;;"
  have herror := ((InternTable.mk #[Conversion.strings]).interns_of "[[Ljava/lang/String;;").error _ rfl
  exact ⟨hlookup, hadds _ hlookup, hrefused _ _ (Prod.ext herror.1 rfl)⟩

end InternTable

end ClassWeaver.Identity
