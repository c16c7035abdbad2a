import ClassWeaver.Proofs.Files.Changes
import ClassWeaver.Proofs.Plugin.Archives
import ClassWeaver.Proofs.Text.Lines

/-!
# What manifests name

The manifest of a directory on the classpath names a type on each of its lines, comments and blank lines apart. The manifest
of an archive names one type, on its first line that is not blank, and has no comments. What a place brings is stated here
for both kinds of places, and shown to be what is read there, as long as it can be read and is text.

## Contents

* `Finding` — the name of a type with the place that brings it.
* `DirectoryFinds`, `directoryFinds_iff` — what a directory of the classpath brings.
* `Archive.IsManifest`, `FileFinds`, `fileFinds_iff` — what a file that may be an archive brings.
-/

namespace ClassWeaver

open FileTree (bytesOfText textOfBytes?_bytesOfText)
open Text (Entries)

/-- The name of a type, with the place where it was found. -/
structure Finding where
  typeName : String
  origin : PluginOrigin
  deriving DecidableEq, Repr

variable {t : FileTree} {directory path : Path} {content : Content} {text : String} {entries : List String}

/-! ## Texts -/

theorem entries_iff_manifestLines : Entries text entries ↔ entries = manifestLines text := by
  have hkept : ((Text.lines text).map Text.trim).filter (fun entry => entry ≠ "") = manifestLines text := by
    refine List.filter_congr fun entry _ => ?_
    rw [Bool.eq_iff_iff, decide_eq_true_iff, Bool.not_eq_true', ← Bool.not_eq_true, String.isEmpty_iff]
  rw [Text.entries_iff, hkept]

/-- The bytes of a text tell the text. -/
theorem bytesOfText_injective {text' : String} (h : bytesOfText text = bytesOfText text') : text = text' := by
  have hread := textOfBytes?_bytesOfText text
  rw [h, textOfBytes?_bytesOfText text'] at hread
  exact (Option.some.inj hread).symm

/-! ## Directories of the classpath -/

/-- What a directory of the classpath brings: nothing without a manifest, and otherwise a type for each line that is neither
blank nor a comment. -/
inductive DirectoryFinds (t : FileTree) (directory : Path) : List Finding → Prop
  | nothing (hnone : t.isFile (directory.join manifestPath) = false) : DirectoryFinds t directory []
  | manifest {text : String} {entries : List String}
      (hread : t.read (directory.join manifestPath) = .ok (.bytes (bytesOfText text))) (hentries : Entries text entries) :
      DirectoryFinds t directory
        ((entries.filter fun entry => entry.toList.head? ≠ some '#').map fun entry => ⟨entry, .classpath directory⟩)

/-- The manifest of a directory, if there is one, can be read and is text. -/
def ReadableDirectory (t : FileTree) (directory : Path) : Prop :=
  t.isFile (directory.join manifestPath) = true →
    ∃ text, t.read (directory.join manifestPath) = .ok (.bytes (bytesOfText text))

theorem isFile_of_read (h : t.read path = .ok content) : t.isFile path = true := by
  obtain ⟨place, hplace⟩ := FileTree.read_eq_ok.mp h
  unfold FileTree.isFile FileTree.nodeAt?
  rw [hplace]

/-- **A directory brings the types that are read from its manifest.** -/
theorem directoryFinds_iff (h : ReadableDirectory t directory) : ∃ types, directoryTypes t directory = .ok types ∧
    ∀ found, DirectoryFinds t directory found ↔ found = types.map fun typeName => ⟨typeName, .classpath directory⟩ := by
  unfold directoryTypes
  by_cases hfile : t.isFile (directory.join manifestPath) = true
  · obtain ⟨text, hread⟩ := h hfile
    obtain ⟨place, hplace⟩ := FileTree.read_eq_ok.mp hread
    have htext : t.readText (directory.join manifestPath) = .ok text :=
      FileTree.readText_eq_ok.mpr ⟨place, _, hplace, textOfBytes?_bytesOfText text⟩
    have hplain : (manifestLines text).filter (fun entry => entry.toList.head? != some '#') =
        (manifestLines text).filter fun entry => entry.toList.head? ≠ some '#' := by
      refine List.filter_congr fun entry _ => ?_
      rw [bne, beq_eq_decide, decide_not]
    simp only [hfile, htext, if_true, hplain]
    refine ⟨_, rfl, fun found => ⟨?_, ?_⟩⟩
    · rintro (hnone | ⟨hread', hentries⟩)
      · rw [hfile] at hnone
        cases hnone
      · rw [hread, Except.ok.injEq, Content.bytes.injEq] at hread'
        obtain rfl := bytesOfText_injective hread'
        rw [entries_iff_manifestLines.mp hentries]
    · rintro rfl
      exact .manifest hread (entries_iff_manifestLines.mpr rfl)
  · rw [if_neg hfile]
    refine ⟨[], rfl, fun found => ⟨?_, ?_⟩⟩
    · rintro (hnone | ⟨hread, -⟩)
      · rfl
      · exact absurd (isFile_of_read hread) hfile
    · rintro rfl
      exact .nothing (by simpa using hfile)

/-! ## Files that may be archives -/

/-- The content of the first entry in the manifest's place. -/
def Archive.IsManifest (a : Archive) (content : List UInt8) : Prop :=
  ∃ front e back, a.entries = front ++ e :: back ∧ e.name = manifestPath ∧ e.content = some content ∧
    ∀ other ∈ front, other.name = manifestPath → other.content = none

theorem Archive.isManifest_iff {a : Archive} {content : List UInt8} : a.IsManifest content ↔ a.manifest? = some content := by
  unfold IsManifest manifest?
  rw [Option.bind_eq_some_iff]
  constructor
  · rintro ⟨front, e, back, hsplit, hname, hcontent, hfront⟩
    refine ⟨e, List.find?_eq_some_iff_append.mpr ⟨by simp [hname, hcontent], front, back, hsplit, ?_⟩, hcontent⟩
    intro other hother
    by_cases hother' : other.name = manifestPath
    · simp [hfront other hother hother']
    · simp [hother']
  · rintro ⟨e, hfind, hcontent⟩
    obtain ⟨he, front, back, hsplit, hfront⟩ := List.find?_eq_some_iff_append.mp hfind
    refine ⟨front, e, back, hsplit, by simpa [hcontent] using he, hcontent, fun other hother hname => ?_⟩
    simpa [hname] using hfront other hother

/-- What a file brings: nothing unless it is an archive with a manifest on which something stands, and then the type on the
first line that is not blank. -/
inductive FileFinds (t : FileTree) (path : Path) : List Finding → Prop
  | noArchive {bytes : List UInt8} (hread : t.read path = .ok (.bytes bytes)) : FileFinds t path []
  | noManifest {a : Archive} (hread : t.read path = .ok (.archive a)) (hnone : ∀ content, ¬a.IsManifest content) :
      FileFinds t path []
  | blank {a : Archive} {text : String} (hread : t.read path = .ok (.archive a))
      (hmanifest : a.IsManifest (bytesOfText text)) (hentries : Entries text []) : FileFinds t path []
  | named {a : Archive} {text first : String} {more : List String} (hread : t.read path = .ok (.archive a))
      (hmanifest : a.IsManifest (bytesOfText text)) (hentries : Entries text (first :: more)) :
      FileFinds t path [⟨first, .archive path⟩]

/-- The file can be read, and if it is an archive with a manifest, the manifest can be unpacked and is text. -/
def ReadableFile (t : FileTree) (path : Path) : Prop :=
  ∃ content, t.read path = .ok content ∧ ∀ a, content = .archive a → ∀ bytes, a.IsManifest bytes →
    a.readable = true ∧ ∃ text, bytes = bytesOfText text

/-- The type that a file names, if it is an archive that names one. -/
def fileType (t : FileTree) (path : Path) : Except DiscoveryFailure (Option String) :=
  match archiveAt? t path with
  | none => .ok none
  | some a => archiveType path a

theorem archiveAt?_of_bytes {bytes : List UInt8} (h : t.read path = .ok (.bytes bytes)) : archiveAt? t path = none := by
  obtain ⟨place, hplace⟩ := FileTree.read_eq_ok.mp h
  unfold archiveAt? FileTree.nodeAt?
  rw [hplace]

theorem archiveAt?_of_archive {a : Archive} (h : t.read path = .ok (.archive a)) : archiveAt? t path = some a := by
  obtain ⟨place, hplace⟩ := FileTree.read_eq_ok.mp h
  unfold archiveAt? FileTree.nodeAt?
  rw [hplace]

/-- What an archive brings, as far as its manifest can be read. -/
theorem fileFinds_archive_iff {a : Archive} (hread : t.read path = .ok (.archive a))
    (h : ∀ bytes, a.IsManifest bytes → a.readable = true ∧ ∃ text, bytes = bytesOfText text) :
    ∃ typeName?, archiveType path a = .ok typeName? ∧
      ∀ found, FileFinds t path found ↔ found = typeName?.toList.map fun typeName => ⟨typeName, .archive path⟩ := by
  have hsame {a' : Archive} (hread' : t.read path = .ok (.archive a')) : a' = a := by
    rw [hread, Except.ok.injEq, Content.archive.injEq] at hread'
    exact hread'.symm
  unfold archiveType
  cases hmanifest : a.manifest? with
  | none =>
    have hnone (bytes : List UInt8) : ¬a.IsManifest bytes := by
      rw [Archive.isManifest_iff, hmanifest]
      exact nofun
    refine ⟨none, rfl, fun found => ⟨?_, ?_⟩⟩
    -- only the last rule brings anything, and it needs a manifest
    · rintro (_ | _ | _ | ⟨hread', hmanifest', -⟩)
      · rfl
      · rfl
      · rfl
      · obtain rfl := hsame hread'
        exact absurd hmanifest' (hnone _)
    · rintro rfl
      exact .noManifest hread hnone
  | some bytes =>
    have hbytes := Archive.isManifest_iff.mpr hmanifest
    obtain ⟨hreadable, text, rfl⟩ := h bytes hbytes
    have htext {a' : Archive} {text' : String} (hread' : t.read path = .ok (.archive a'))
        (hmanifest' : a'.IsManifest (bytesOfText text')) : text' = text := by
      obtain rfl := hsame hread'
      rw [Archive.isManifest_iff, hmanifest, Option.some.injEq] at hmanifest'
      exact bytesOfText_injective hmanifest'.symm
    simp only [hreadable, textOfBytes?_bytesOfText, Bool.not_true, Bool.false_eq_true, if_false]
    refine ⟨_, rfl, fun found => ⟨?_, ?_⟩⟩
    · rintro (hread' | ⟨hread', hnone⟩ | ⟨hread', hmanifest', hentries⟩ | ⟨hread', hmanifest', hentries⟩)
      · rw [hread] at hread'
        cases hread'
      · obtain rfl := hsame hread'
        exact absurd hbytes (hnone _)
      · obtain rfl := htext hread' hmanifest'
        rw [← entries_iff_manifestLines.mp hentries]
        rfl
      · obtain rfl := htext hread' hmanifest'
        rw [← entries_iff_manifestLines.mp hentries]
        rfl
    · rintro rfl
      cases hlines : manifestLines text with
      | nil => exact .blank hread hbytes (entries_iff_manifestLines.mpr hlines.symm)
      | cons first more => exact .named hread hbytes (entries_iff_manifestLines.mpr hlines.symm)

/-- **A file brings the type that is read from it.** -/
theorem fileFinds_iff (h : ReadableFile t path) : ∃ typeName?, fileType t path = .ok typeName? ∧
    ∀ found, FileFinds t path found ↔ found = typeName?.toList.map fun typeName => ⟨typeName, .archive path⟩ := by
  obtain ⟨content, hread, hmanifest⟩ := h
  unfold fileType
  cases content with
  | bytes bytes =>
    rw [archiveAt?_of_bytes hread]
    refine ⟨none, rfl, fun found => ⟨?_, ?_⟩⟩
    · rintro (_ | _ | _ | ⟨hread', -, -⟩)
      · rfl
      · rfl
      · rfl
      · rw [hread] at hread'
        cases hread'
    · rintro rfl
      exact .noArchive hread
  | archive a =>
    rw [archiveAt?_of_archive hread]
    exact fileFinds_archive_iff hread (hmanifest a rfl)

end ClassWeaver
