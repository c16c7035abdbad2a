import ClassWeaver.Proofs.Files.Changes
import ClassWeaver.Proofs.Json.Lawful
import ClassWeaver.Registry.Configuration

/-!
# Documents in files

Reading a document changes nothing, and what it finds stays there as long as the file is left alone. Writing one touches
no file but its own, which then holds the document, provided that the printed document is read as what it was.

## Contents

* `Holds`, `readDocument_eq_ok`, `readDocument_eq_error`, `Holds.of_spares` — files that hold a document.
* `writeDocument_eq_ok`, `writeDocument_eq_error`, `updateDocument_eq_ok` — files that are brought up to date.
* `loadDocument`, `loadDocument_eq_ok_iff` — the way in which every document is loaded.
-/

namespace ClassWeaver

open FileTree

variable {t t' : FileTree} {p : Path} {document : Json} {existing : Option Json}

/-! ## Changes of files on the way -/

theorem Loading.onFiles_eq_ok {action : FileAction Unit} :
    Loading.onFiles p action t = (.ok (), t') ↔ action t = (.ok (), t') := by
  show ((action t).1.mapError _, (action t).2) = _ ↔ _
  rw [Prod.mk.injEq, except_mapError_eq_ok, Prod.ext_iff]

/-- A change that fails is laid to files, never to what a document says. -/
theorem Loading.onFiles_eq_error {action : FileAction Unit} {failure : RegistryFailure}
    (h : Loading.onFiles p action t = (.error failure, t')) : ∃ fault, failure = .inaccessible p fault := by
  have hresult : (action t).1.mapError (RegistryFailure.inaccessible p) = .error failure := congrArg Prod.fst h
  cases haction : (action t).1 with
  | ok done =>
    rw [haction] at hresult
    cases hresult
  | error fault =>
    rw [haction] at hresult
    cases hresult
    exact ⟨fault, rfl⟩

/-! ## Reading -/

variable [DocumentSyntax]

/-- The file at the end of a path holds a document. -/
def Holds (t : FileTree) (p : Path) (document : Json) : Prop :=
  ∃ place text, t.resolve p = .ok (.found place (.file (.bytes text))) ∧
    (textOfBytes? text).bind DocumentSyntax.parse? = some document

theorem Holds.present (h : Holds t p document) : t.present p = true := by
  obtain ⟨place, bytes, hp, -⟩ := h
  unfold FileTree.present nodeAt?
  rw [hp]
  rfl

/-- What a file holds is read from it. -/
theorem Holds.readDocument (h : Holds t p document) : readDocument p t = (.ok (some document), t) := by
  have hpresent := h.present
  obtain ⟨place, bytes, hp, hparsed⟩ := h
  obtain ⟨text, htext, hparsed⟩ := Option.bind_eq_some_iff.mp hparsed
  unfold ClassWeaver.readDocument
  rw [Edits.get_bind, if_pos hpresent, readText_eq_ok.mpr ⟨place, bytes, hp, htext⟩]
  dsimp only
  rw [hparsed]
  rfl

/-- **Reading changes nothing**, and what was found is what the file holds. -/
theorem readDocument_eq_ok (h : readDocument p t = (.ok existing, t')) :
    t' = t ∧ ∀ document ∈ existing, Holds t p document := by
  unfold readDocument at h
  rw [Edits.get_bind] at h
  split at h
  · cases htext : t.readText p with
    | error fault =>
      rw [htext] at h
      cases h
    | ok text =>
      rw [htext] at h
      dsimp only at h
      cases hparsed : DocumentSyntax.parse? text with
      | none =>
        rw [hparsed] at h
        cases h
      | some found =>
        rw [hparsed] at h
        cases h
        refine ⟨rfl, fun document hdocument => ?_⟩
        cases hdocument
        obtain ⟨place, bytes, hp, hbytes⟩ := readText_eq_ok.mp htext
        exact ⟨place, bytes, hp, Option.bind_eq_some_iff.mpr ⟨text, hbytes, hparsed⟩⟩
  · cases h
    exact ⟨rfl, nofun⟩

/-- A file that cannot be read as a document is left alone. -/
theorem readDocument_eq_error {failure : RegistryFailure} (h : readDocument p t = (.error failure, t')) : t' = t := by
  unfold readDocument at h
  rw [Edits.get_bind] at h
  split at h
  · cases htext : t.readText p with
    | error fault =>
      rw [htext] at h
      cases h
      rfl
    | ok text =>
      rw [htext] at h
      dsimp only at h
      cases hparsed : DocumentSyntax.parse? text with
      | none =>
        rw [hparsed] at h
        cases h
        rfl
      | some found =>
        rw [hparsed] at h
        cases h
  · cases h

/-- **A file that is left alone holds what it held.** -/
theorem Holds.of_spares {touched : Location → Prop} (h : Holds t p document) (hspares : t.Spares touched t')
    (hp : ¬touched (p.place t.workingDirectory)) : Holds t' p document := by
  obtain ⟨place, bytes, hresolve, hparsed⟩ := h
  refine ⟨place, bytes, hspares.resolve_file hresolve ?_, hparsed⟩
  rw [← place_of_resolve hresolve] at hp
  exact hp

/-! ## Writing -/

/-- Writing a document touches no file but its own, and puts the document's text there. -/
theorem writeDocument_eq_ok (h : writeDocument p document t = (.ok (), t')) :
    t.Spares (· = p.place t.workingDirectory) t' ∧ t'.resolve p =
      .ok (.found (p.place t.workingDirectory) (.file (.bytes (bytesOfText (documentText document))))) := by
  have hmade : ∃ u, t.Spares (fun _ => False) u ∧
      FileAction.write p (.bytes (bytesOfText (documentText document))) u = (.ok (), t') := by
    unfold writeDocument at h
    cases hparent : p.parent? with
    | none =>
      rw [hparent] at h
      exact ⟨t, .refl t, Loading.onFiles_eq_ok.mp h⟩
    | some up =>
      rw [hparent] at h
      obtain ⟨⟨⟩, u, hup, hwrite⟩ := Edits.bind_eq_ok.mp h
      exact ⟨u, (FileAction.makeDirectories_eq_ok (Loading.onFiles_eq_ok.mp hup)).1, Loading.onFiles_eq_ok.mp hwrite⟩
  obtain ⟨u, hspares, hwrite⟩ := hmade
  obtain ⟨hspares', hp⟩ := FileAction.write_eq_ok hwrite
  rw [hspares.workingDirectory] at hspares' hp
  exact ⟨(hspares.mono fun _ => False.elim).of_spares hspares', hp⟩

/-- A document that was written is in its file, if its printed form is read as what it was. -/
theorem Holds.of_writeDocument (h : writeDocument p document t = (.ok (), t')) (hreads : document.ReadsBack) :
    Holds t' p document := by
  refine ⟨_, _, (writeDocument_eq_ok h).2, ?_⟩
  rw [textOfBytes?_bytesOfText]
  exact hreads

/-- If writing fails, then files are at fault. -/
theorem writeDocument_eq_error {failure : RegistryFailure} (h : writeDocument p document t = (.error failure, t')) :
    ∃ q fault, failure = .inaccessible q fault := by
  unfold writeDocument at h
  cases hparent : p.parent? with
  | none =>
    rw [hparent] at h
    exact ⟨p, Loading.onFiles_eq_error h⟩
  | some up =>
    rw [hparent] at h
    obtain hup | ⟨_, _, -, hwrite⟩ := Edits.bind_eq_error h
    · exact ⟨up, Loading.onFiles_eq_error hup⟩
    · exact ⟨p, Loading.onFiles_eq_error hwrite⟩

/-- **Bringing a file up to date touches no other file**, and the file holds the document then, if what had to be written
is read back. -/
theorem updateDocument_eq_ok (hread : readDocument p t = (.ok existing, t))
    (h : updateDocument p existing document t = (.ok (), t')) :
    t.Spares (· = p.place t.workingDirectory) t' ∧
      ((existing ≠ some document → document.ReadsBack) → Holds t' p document) := by
  unfold updateDocument at h
  by_cases hsame : existing = some document
  · rw [if_pos hsame] at h
    obtain ⟨-, rfl⟩ := Edits.pure_eq_ok.mp h
    exact ⟨.refl t, fun _ => (readDocument_eq_ok hread).2 document hsame⟩
  · rw [if_neg hsame] at h
    exact ⟨(writeDocument_eq_ok h).1, fun hdocument => .of_writeDocument h (hdocument hsame)⟩

/-- A file that is up to date is left alone. -/
theorem updateDocument_same : updateDocument p (some document) document t = (.ok (), t) := by
  unfold updateDocument
  rw [if_pos rfl]
  rfl

/-! ## Loading -/

omit [DocumentSyntax] in
theorem Loading.ofResult_eq_ok {α : Type} {result : Except DocumentFault α} {a : α} :
    Loading.ofResult p result t = (.ok a, t') ↔ result = .ok a ∧ t = t' := by
  cases result with
  | error fault => exact iff_of_false nofun nofun
  | ok x =>
    show (Except.ok x, t) = _ ↔ _
    rw [Prod.mk.injEq, Except.ok.injEq, Except.ok.injEq]

/-- Loads a document: it is read and completed, and only then is its file brought up to date. -/
def loadDocument {α : Type} (p : Path) (complete : Option Json → Except DocumentFault (α × Json)) : Loading α := do
  let existing ← readDocument p
  let (a, document) ← Loading.ofResult p (complete existing)
  updateDocument p existing document
  return a

section Load

variable {α : Type} {complete : Option Json → Except DocumentFault (α × Json)} {a : α}

theorem loadDocument_eq_ok_iff : loadDocument p complete t = (.ok a, t') ↔
    ∃ existing document, readDocument p t = (.ok existing, t) ∧ complete existing = .ok (a, document) ∧
      updateDocument p existing document t = (.ok (), t') := by
  unfold loadDocument
  constructor
  · intro h
    obtain ⟨existing, u, hread, hbehind⟩ := Edits.bind_eq_ok.mp h
    obtain ⟨rfl, -⟩ := readDocument_eq_ok hread
    obtain ⟨⟨found, document⟩, v, hstep, hbehind⟩ := Edits.bind_eq_ok.mp hbehind
    obtain ⟨hcomplete, rfl⟩ := Loading.ofResult_eq_ok.mp hstep
    obtain ⟨⟨⟩, v, hupdate, hbehind⟩ := Edits.bind_eq_ok.mp hbehind
    obtain ⟨rfl, rfl⟩ := Edits.pure_eq_ok.mp hbehind
    exact ⟨existing, document, hread, hcomplete, hupdate⟩
  · rintro ⟨existing, document, hread, hcomplete, hupdate⟩
    refine Edits.bind_eq_ok.mpr ⟨existing, t, hread, Edits.bind_eq_ok.mpr ⟨(a, document), t, ?_, ?_⟩⟩
    · exact Loading.ofResult_eq_ok.mpr ⟨hcomplete, rfl⟩
    · exact Edits.bind_eq_ok.mpr ⟨(), t', hupdate, rfl⟩

end Load

end ClassWeaver
