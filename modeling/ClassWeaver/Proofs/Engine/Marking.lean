import ClassWeaver.Proofs.ClassFile.Annotations
import ClassWeaver.Proofs.Engine.Dispatch
import ClassWeaver.Proofs.Weaving.Steps

/-!
# Marking classes

Every class that the engine changed is marked by an annotation. The mark is to be seen by whoever reads the class, and
marking a class that has the mark is to change nothing. Both hold for classes whose annotations end the payload that
they are in; bytes behind them may hide the mark.

## Contents

* `rewrite_markerPass` — what the marking pass writes.
* `annotate_once` — annotations are added once, and a marked class is seen to be marked.
* `noEntry_stays_unmarked` — a class that is marked twice.
-/

namespace ClassWeaver

variable {bytes written : List UInt8} {c c' : ClassFile} {type : String}

/-- What the pass that marks classes writes. -/
theorem rewrite_markerPass {className : String} : markerPass.rewrite className bytes = .ok written ↔
    ∃ c, ClassFile.ofBytes bytes = .ok c ∧ ∃ added c', ClassEdit.annotate markType c = (.ok added, c') ∧
      written = c'.toBytes := by
  rw [Pass.rewrite_eq_ok]
  refine exists_congr fun c => and_congr_right fun _ => ?_
  constructor
  · rintro ⟨c', hmark, rfl⟩
    obtain ⟨added, u, hadded, hdone⟩ := Edits.bind_eq_ok.mp (Weaving.ofEdit_eq_ok.mp hmark)
    obtain ⟨-, rfl⟩ := Edits.pure_eq_ok.mp hdone
    exact ⟨added, u, hadded, rfl⟩
  · rintro ⟨added, c', hadded, rfl⟩
    exact ⟨c', Weaving.ofEdit_eq_ok.mpr (Edits.bind_eq_ok.mpr ⟨added, c', hadded, Edits.pure_eq_ok.mpr ⟨rfl, rfl⟩⟩), rfl⟩

theorem isMarked_eq_ok {answer : Bool} :
    isMarked bytes = .ok answer ↔ ∃ c, ClassFile.ofBytes bytes = .ok c ∧ c.isAnnotatedWith markType = .ok answer :=
  except_bind_eq_ok

/-- **Annotating adds its type once.** When nothing is to be added the class stays as it is. Otherwise the types are
those of before and the new one behind them, the class has the annotation, also when it is written and read again, and
annotating it once more adds nothing. So a class that the marking pass wrote is marked, and is not marked twice. All
this needs that the entries end the payload that is extended, and that no attribute's name lies beyond the pool. -/
theorem annotate_once (hread : ClassFile.ofBytes bytes = .ok c) (hexact : c.AnnotationsExact)
    (hnames : ∀ a ∈ c.attributes, a.nameIndex.toNat < c.pool.count) :
    (∀ type c', ClassEdit.annotate type c = (.ok false, c') → c' = c) ∧
      (∀ type c', ClassEdit.annotate type c = (.ok true, c') →
        (∃ before, c.annotations = .ok before ∧ c'.annotations = .ok (before ++ [type])) ∧
          c'.isAnnotatedWith type = .ok true ∧ ClassEdit.annotate type c' = (.ok false, c') ∧
            (c.RoomFor type → ClassFile.ofBytes c'.toBytes = .ok c')) ∧
        (c.RoomFor markType → ∀ className written, markerPass.rewrite className bytes = .ok written →
          isMarked written = .ok true ∧ markerPass.rewrite className written = .ok written) := by
  have hcount := (ClassFile.filled_of_ofBytes hread).pool.count_le
  refine ⟨?_, ?_, ?_⟩
  · intro type c' h
    exact (ClassEdit.annotate_eq_ok.mp h).2.1 rfl
  · intro type c' h
    obtain ⟨hasked, -, hgained⟩ := ClassEdit.annotate_eq_ok.mp h
    obtain ⟨before, hbefore, -⟩ := ClassFile.isAnnotatedWith_eq_ok.mp hasked
    have hannotated := ClassEdit.isAnnotatedWith_of_annotate hexact hcount hnames h
    refine ⟨⟨before, hbefore, (hgained rfl).annotations hexact hcount hnames hbefore⟩, hannotated, ?_, ?_⟩
    · exact ClassEdit.annotate_of_annotated hannotated
    · exact (hgained rfl).readsBack hread hnames
  · intro hroom className written h
    obtain ⟨d, hd, added, c', hmark, rfl⟩ := rewrite_markerPass.mp h
    rw [hread] at hd
    cases hd
    have hannotated := ClassEdit.isAnnotatedWith_of_annotate hexact hcount hnames hmark
    obtain ⟨-, hkept, hgained⟩ := ClassEdit.annotate_eq_ok.mp hmark
    have hback : ClassFile.ofBytes c'.toBytes = .ok c' := by
      cases added with
      | false =>
        rw [hkept rfl]
        exact (ClassFile.writable_of_ofBytes hread hroom.slots).read_iff.mpr rfl
      | true => exact (hgained rfl).readsBack hread hnames hroom
    refine ⟨isMarked_eq_ok.mpr ⟨c', hback, hannotated⟩, ?_⟩
    exact rewrite_markerPass.mpr ⟨c', hback, false, c', ClassEdit.annotate_of_annotated hannotated, rfl⟩

/-- The bytes of a class named `A` that has one attribute, of invisible annotations with the given payload of six
bytes. Its constants are the class, its name, the attribute's name and the text `LX;`. -/
def annotatedBytes (payload : List UInt8) : List UInt8 :=
  [0xCA, 0xFE, 0xBA, 0xBE, 0x00, 0x00, 0x00, 0x34, 0x00, 0x05, 0x07, 0x00, 0x02, 0x01, 0x00, 0x01, 0x41, 0x01, 0x00,
    0x1B, 0x52, 0x75, 0x6E, 0x74, 0x69, 0x6D, 0x65, 0x49, 0x6E, 0x76, 0x69, 0x73, 0x69, 0x62, 0x6C, 0x65, 0x41, 0x6E,
    0x6E, 0x6F, 0x74, 0x61, 0x74, 0x69, 0x6F, 0x6E, 0x73, 0x01, 0x00, 0x03, 0x4C, 0x58, 0x3B, 0x00, 0x21, 0x00, 0x01,
    0x00, 0x00, 0x00, 0x00, 0x00, 0x00, 0x00, 0x00, 0x00, 0x01, 0x00, 0x03, 0x00, 0x00, 0x00, 0x06] ++ payload

/-- The class of those bytes. -/
def annotatedClass (payload : List UInt8) : ClassFile where
  minorVersion := 0
  majorVersion := 52
  pool := ⟨#[.unusable, .classRef 2, .utf8 (.ofText "A"), .utf8 (.ofText invisibleName), .utf8 (.ofText "LX;")]⟩
  access := ⟨0x0021⟩
  thisClass := 1
  superClass := 0
  interfaces := []
  fields := []
  methods := []
  attributes := [⟨3, payload⟩]

/-- A payload with one entry, of type `LX;`. -/
def oneEntry : List UInt8 :=
  [0x00, 0x01, 0x00, 0x04, 0x00, 0x00]

/-- A payload without entries that goes on behind them, with what would be an entry of type `A`. -/
def noEntry : List UInt8 :=
  [0x00, 0x00, 0x00, 0x02, 0x00, 0x00]

theorem roomFor_oneEntry : (annotatedClass oneEntry).RoomFor markType where
  slots := by decide
  text := by decide
  attributes := by decide
  payload a ha := by
    cases ha
    decide

/-- The class with the mark's text in its pool and an entry for it. -/
def markedClass (payload : List UInt8) : ClassFile :=
  (annotatedClass payload).withEntry ⟨(annotatedClass payload).pool.slots.push (.utf8 (.ofText markType))⟩ 0 5

theorem annotate_annotatedClass {payload : List UInt8}
    (h : (annotatedClass payload).isAnnotatedWith markType = .ok false) :
    ClassEdit.annotate markType (annotatedClass payload) = (.ok true, markedClass payload) := by
  refine ClassEdit.annotate_eq_ok.mpr ⟨h, nofun, fun _ => .entry ?_ rfl⟩
  rw [ConstantPool.addUtf8, ConstantPool.add_eq]
  rfl

/-- What `annotate_once` says of marking the class with one entry. -/
theorem annotate_once_oneEntry :
    ClassFile.ofBytes (annotatedBytes oneEntry) = .ok (annotatedClass oneEntry) ∧
      ClassEdit.annotate markType (annotatedClass oneEntry) = (.ok true, markedClass oneEntry) ∧
        (∃ before, (annotatedClass oneEntry).annotations = .ok before ∧
          (markedClass oneEntry).annotations = .ok (before ++ [markType])) ∧
          isMarked (markedClass oneEntry).toBytes = .ok true ∧
            markerPass.rewrite "A" (markedClass oneEntry).toBytes = .ok (markedClass oneEntry).toBytes := by
  have hread : ClassFile.ofBytes (annotatedBytes oneEntry) = .ok (annotatedClass oneEntry) := rfl
  have hmark : ClassEdit.annotate markType (annotatedClass oneEntry) = (.ok true, markedClass oneEntry) :=
    annotate_annotatedClass rfl
  have hexact : (annotatedClass oneEntry).AnnotationsExact := by
    intro a ha
    cases ha
    exact ⟨[⟨4, []⟩], rfl, by decide⟩
  obtain ⟨-, hadded, hmarked⟩ := annotate_once hread hexact (by decide)
  have hwritten : markerPass.rewrite "A" (annotatedBytes oneEntry) = .ok (markedClass oneEntry).toBytes :=
    rewrite_markerPass.mpr ⟨_, hread, true, _, hmark, rfl⟩
  exact ⟨hread, hmark, (hadded markType _ hmark).1, hmarked roomFor_oneEntry "A" _ hwritten⟩

/-- **Bytes behind the entries** become the entry that was to be added: the class is marked and does not show it, so
that it is marked a second time. -/
theorem noEntry_stays_unmarked :
    ClassFile.ofBytes (annotatedBytes noEntry) = .ok (annotatedClass noEntry) ∧
      (annotatedClass noEntry).annotations = .ok [] ∧
        ClassEdit.annotate markType (annotatedClass noEntry) = (.ok true, markedClass noEntry) ∧
          (markedClass noEntry).annotations = .ok ["A"] ∧ isMarked (markedClass noEntry).toBytes = .ok false ∧
            ClassEdit.annotate markType (markedClass noEntry) =
              (.ok true, (markedClass noEntry).withEntry (markedClass noEntry).pool 0 5) := by
  refine ⟨rfl, rfl, annotate_annotatedClass rfl, rfl, rfl, ?_⟩
  refine ClassEdit.annotate_eq_ok.mpr ⟨rfl, nofun, fun _ => .entry ?_ rfl⟩
  rw [ConstantPool.addUtf8, ConstantPool.add_eq]
  rfl

end ClassWeaver
