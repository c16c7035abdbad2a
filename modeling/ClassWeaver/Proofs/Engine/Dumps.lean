import ClassWeaver.Engine.Dispatch
import ClassWeaver.Proofs.Files.Changes
import ClassWeaver.Proofs.Identity.Spelling

/-!
# Where classes are dumped

The name of a class comes from whoever asks to have it transformed, and it ends up in the path of a file. What keeps the
file below the root of the dump is the way types are read: the segments of a class name are not empty and are joined by
single dots, slashes never are in one, and a type that was read is spelled anew for the path. So each name of the path has
a character that is not a dot. Two types are spelled alike only if they are the same, and so no two share a file.

## Contents

* `Solid` — paths all of whose names lead down; `solid_internalName`.
* `dumpNames`, `Confined`, `confined_dumpPath` — the place of a dumped class.
* `dumpPath_ne` — different types have different files.
* `dump_spares`, `transform_spares` — what dumping touches.
* `dump_confined` — all of it, for types that were looked up.
-/

namespace ClassWeaver

open Identity
open ClassWeaver.Path (IsEntryName)

/-! ## Names that lead down -/

/-- Every name of a path has a character that is not a dot. -/
def Solid (cs : List Char) : Prop :=
  ∀ part ∈ Text.split '/' cs, ∃ c ∈ part, c ≠ '.'

variable {cs front back : List Char}

theorem Solid.append_front (h : Solid cs) (hfront : '/' ∉ front) : Solid (front ++ cs) := by
  obtain ⟨first, more, hcs, hsplit⟩ := Text.split_append_of_notMem hfront cs
  unfold Solid at h ⊢
  rw [hcs, List.forall_mem_cons] at h
  rw [hsplit, List.forall_mem_cons]
  obtain ⟨⟨c, hc, hdot⟩, hmore⟩ := h
  exact ⟨⟨c, List.mem_append_right _ hc, hdot⟩, hmore⟩

theorem Solid.append_back (h : Solid cs) (hback : '/' ∉ back) : Solid (cs ++ back) := by
  obtain ⟨parts, last, hcs, hsplit⟩ := Text.split_concat_of_notMem hback cs
  unfold Solid at h ⊢
  rw [hcs, List.forall_mem_append, List.forall_mem_singleton] at h
  rw [hsplit, List.forall_mem_append, List.forall_mem_singleton]
  obtain ⟨hparts, c, hc, hdot⟩ := h
  exact ⟨hparts, c, List.mem_append_left _ hc, hdot⟩

/-- A single name. -/
theorem solid_of_noSlash (hslash : '/' ∉ cs) {c : Char} (hc : c ∈ cs) (hdot : c ≠ '.') : Solid cs := by
  unfold Solid
  rw [Text.split_eq_singleton hslash, List.forall_mem_singleton]
  exact ⟨c, hc, hdot⟩

/-- The names of such a path are names that files can have. -/
theorem Solid.isEntryName {text : String} (h : Solid text.toList) : ∀ name ∈ (Path.mk text).segments, IsEntryName name := by
  unfold Path.segments
  rw [List.forall_mem_map]
  intro part hpart
  obtain ⟨c, hc, hdot⟩ := h part hpart
  have hne {other : String} (hother : ∀ c ∈ other.toList, c = '.') : String.ofList part ≠ other := by
    rintro rfl
    rw [String.toList_ofList] at hother
    exact hdot (hother c hc)
  refine ⟨hne nofun, hne (by simp), hne (by simp), ?_⟩
  rw [String.toList_ofList]
  exact Text.notMem_of_mem_split hpart

/-! ## Names of types -/

/-- The segments of a class name are names with a character that is not a dot; the first one may have begun before. -/
theorem split_dotsToSlashes {fresh : Bool} (h : isDotted fresh cs = true) :
    (fresh = true → Solid (dotsToSlashes cs)) ∧
      ∀ part ∈ (Text.split '/' (dotsToSlashes cs)).tail, ∃ c ∈ part, c ≠ '.' := by
  induction cs generalizing fresh with
  | nil =>
    cases fresh with
    | true => cases h
    | false =>
      constructor
      · intro hfresh
        cases hfresh
      · intro part hpart
        cases hpart
  | cons c rest ih =>
    unfold isDotted at h
    by_cases hdot : c = '.'
    · subst hdot
      rw [if_pos (beq_self_eq_true _), Bool.and_eq_true, Bool.not_eq_true'] at h
      have hsplit : Text.split '/' (dotsToSlashes ('.' :: rest)) = [] :: Text.split '/' (dotsToSlashes rest) := rfl
      rw [hsplit, h.1]
      refine ⟨?_, (ih h.2).1 rfl⟩
      intro hfresh
      cases hfresh
    · rw [if_neg (by simpa using hdot), Bool.and_eq_true] at h
      have hslash : '/' ∉ [c] := by
        intro hmem
        rw [← List.mem_singleton.mp hmem] at h
        exact absurd h.1 (by decide)
      obtain ⟨first, more, hrest, hsplit⟩ := Text.split_append_of_notMem hslash (dotsToSlashes rest)
      have hcons : dotsToSlashes (c :: rest) = [c] ++ dotsToSlashes rest := by
        unfold dotsToSlashes
        rw [List.map_cons, if_neg (by simpa using hdot), List.singleton_append]
      have hmore := (ih h.2).2
      rw [hrest, List.tail_cons] at hmore
      unfold Solid
      rw [hcons, hsplit, List.forall_mem_cons, List.tail_cons]
      exact ⟨fun _ => ⟨⟨c, List.mem_append_left _ (List.mem_singleton_self c), hdot⟩, hmore⟩, hmore⟩

theorem solid_className (n : ClassName) : Solid (dotsToSlashes n.text.toList) :=
  (split_dotsToSlashes n.dotted).1 rfl

theorem solid_keyword (p : Primitive) : Solid p.keyword.toList := by
  cases p <;> exact solid_of_noSlash (by decide) List.mem_cons_self (by decide)

theorem solid_letter (p : Primitive) : Solid [p.letter] := by
  cases p <;> exact solid_of_noSlash (by decide) List.mem_cons_self (by decide)

theorem solid_descriptorChars (d : TypeDescriptor) : Solid d.descriptorChars := by
  have hbrackets : '/' ∉ List.replicate d.dimensions '[' := by
    intro hmem
    exact absurd (List.eq_of_mem_replicate hmem) (by decide)
  unfold TypeDescriptor.descriptorChars
  refine Solid.append_front ?_ hbrackets
  cases d.element with
  | primitive p => exact solid_letter p
  | object n =>
    have hfront : '/' ∉ ['L'] := by decide
    exact ((solid_className n).append_back (by decide)).append_front hfront

/-- **A type is spelled for class files by a path that leads down.** -/
theorem solid_internalName (d : TypeDescriptor) : Solid d.internalName.toList := by
  unfold TypeDescriptor.internalName
  by_cases harray : d.isArray = true
  · rw [if_pos harray, TypeDescriptor.descriptor, String.toList_ofList]
    exact solid_descriptorChars d
  rw [if_neg harray]
  have hscalar : d.dimensions = 0 := by simpa [TypeDescriptor.isArray] using harray
  have hname := TypeDescriptor.toList_name_of_scalar hscalar
  have hprimitive : d.primitive? = d.element.primitive? := if_pos hscalar
  unfold TypeDescriptor.isPrimitive
  rw [hprimitive]
  cases helement : d.element with
  | primitive p =>
    rw [helement] at hname
    rw [if_pos (show (Element.primitive p).primitive?.isSome = true from rfl), hname]
    exact solid_keyword p
  | object n =>
    rw [helement] at hname
    rw [if_neg (by simp [Element.primitive?]), String.toList_ofList, hname]
    exact solid_className n

theorem internalName_injective {d d' : TypeDescriptor} (h : d.internalName = d'.internalName) : d = d' := by
  have hread := d.ofInternalName_internalName
  rw [h, d'.ofInternalName_internalName] at hread
  cases hread
  rfl

/-! ## Places of dumped classes -/

namespace Engine

variable {d d' : TypeDescriptor} {dumpRoot : Path} {workingDirectory : Location}

/-- The names below the root of the dump that lead to the file of a type. -/
def dumpNames (d : TypeDescriptor) : List String :=
  (Path.mk (d.internalName ++ ".class")).segments

theorem isEntryName_dumpNames (d : TypeDescriptor) : ∀ name ∈ dumpNames d, IsEntryName name := by
  refine Solid.isEntryName ?_
  rw [String.toList_append]
  exact (solid_internalName d).append_back (by decide)

/-- **Different types have different names in the dump.** -/
theorem dumpNames_injective (h : dumpNames d = dumpNames d') : d = d' := by
  have htext := congrArg (fun p : Path => p.text.toList) (Path.segments_injective h)
  simp only [String.toList_append, List.append_cancel_right_eq] at htext
  exact internalName_injective (String.toList_inj.mp htext)

/-- A path leads below the root of the dump: it starts where the root starts, and from there on it has names of files
only. -/
structure Confined (dumpRoot p : Path) (names : List String) : Prop where
  ne_nil : names ≠ []
  entries : ∀ name ∈ names, IsEntryName name
  joined : ∃ relative : String, p = dumpRoot.join relative ∧ (Path.mk relative).isAbsolute = false ∧
    (Path.mk relative).segments = names
  isAbsolute : p.isAbsolute = dumpRoot.isAbsolute
  place : ∀ workingDirectory, p.place workingDirectory = dumpRoot.place workingDirectory ++ names

/-- **The file of a type is below the root of the dump.** -/
theorem confined_dumpPath (dumpRoot : Path) (d : TypeDescriptor) : Confined dumpRoot (dumpPath dumpRoot d) (dumpNames d) := by
  have hrelative := Path.isAbsolute_eq_false_of_segments (isEntryName_dumpNames d)
  exact {
    ne_nil := by
      unfold dumpNames Path.segments
      simp [Text.split_ne_nil]
    entries := isEntryName_dumpNames d
    joined := ⟨_, rfl, hrelative, rfl⟩
    isAbsolute := Path.isAbsolute_join hrelative
    place := fun workingDirectory => Path.place_join_segments (isEntryName_dumpNames d) }

/-- **Different types have different files**, by the spelling of their paths and by the places they lead to. -/
theorem dumpPath_ne (h : d ≠ d') : dumpPath dumpRoot d ≠ dumpPath dumpRoot d' ∧
    (dumpPath dumpRoot d).place workingDirectory ≠ (dumpPath dumpRoot d').place workingDirectory := by
  have hplace : (dumpPath dumpRoot d).place workingDirectory ≠ (dumpPath dumpRoot d').place workingDirectory := by
    rw [(confined_dumpPath dumpRoot d).place, (confined_dumpPath dumpRoot d').place, Ne, List.append_cancel_left_eq]
    exact fun heq => h (dumpNames_injective heq)
  exact ⟨fun heq => hplace (by rw [heq]), hplace⟩

/-! ## What dumping touches -/

/-- Dumping touches one file, whether or not it succeeds. -/
theorem dump_spares (dumpRoot : Path) (d : TypeDescriptor) (bytes : List UInt8) (t : FileTree) :
    t.Spares (· = (dumpPath dumpRoot d).place t.workingDirectory) (dump dumpRoot d bytes t) := by
  unfold dump
  dsimp only
  generalize dumpPath dumpRoot d = p
  have hparents : t.Spares (· = p.place t.workingDirectory) (FileAction.makeParents p t).2 :=
    (FileAction.makeParents_spares p t).mono nofun
  have hrun : (FileAction.makeParents p).run t = FileAction.makeParents p t := rfl
  rw [hrun]
  cases hmade : FileAction.makeParents p t with
  | mk result u =>
    rw [hmade] at hparents
    cases result with
    | error fault => exact hparents
    | ok made =>
      have hwrite := FileAction.write_spares p (.bytes bytes) u
      rw [hparents.workingDirectory] at hwrite
      exact hparents.of_spares hwrite

/-- Passes are chosen for the type that the name spells. -/
theorem lookup_of_passes? {a : Accepted} {table : InternTable} {className : String} {passes : List Pass}
    (h : a.passes? table className = some (d, passes)) : (table.lookup className).bind table.get? = some d := by
  obtain ⟨found, hfound, h⟩ := Option.bind_eq_some_iff.mp h
  obtain ⟨positions, -, h⟩ := Option.bind_eq_some_iff.mp h
  cases h
  exact hfound

/-- **Sending a class through an engine touches no file but the one of the type that the name spells.** -/
theorem transform_spares (a : Accepted) (table : InternTable) (className : String) (bytes : List UInt8)
    (files : FileTree) : files.Spares
      (fun place => ∃ d, (table.lookup className).bind table.get? = some d ∧
        place = (dumpPath a.config.dumpRoot d).place files.workingDirectory)
      ((Engine.mk (some a)).transform table className bytes files).files := by
  unfold transform
  dsimp only
  split
  · exact .refl files
  cases hpasses : a.passes? table className with
  | none => exact .refl files
  | some selected =>
    obtain ⟨d, passes⟩ := selected
    dsimp only
    cases Pass.runMarked className passes bytes with
    | mk result progress =>
      cases result with
      | error failure => exact .refl files
      | ok ran =>
        dsimp only
        by_cases hdump : a.config.switches.dump = true
        · rw [if_pos hdump]
          exact (dump_spares a.config.dumpRoot d progress.bytes files).mono fun place hplace =>
            ⟨d, lookup_of_passes? hpasses, hplace⟩
        · rw [if_neg hdump]
          exact .refl files

/-- **Dumping is confined and free of collisions.** Whatever name is asked for, if it leads to a type, the path of the type's
file is joined to the root of the dump by names of files, at least one, none of them empty or a dot or two; it starts from the
top only if the root does; and a class that is sent through an engine under the name touches no other file. A type that is
not the same has another path, which leads to another place. -/
theorem dump_confined {table : InternTable} {className : String} {d : TypeDescriptor}
    (h : (table.lookup className).bind table.get? = some d) (dumpRoot : Path) :
    (∃ names, Confined dumpRoot (dumpPath dumpRoot d) names ∧
      ∀ (a : Accepted) (bytes : List UInt8) (files : FileTree), a.config.dumpRoot = dumpRoot →
        files.Spares (· = dumpRoot.place files.workingDirectory ++ names)
          ((Engine.mk (some a)).transform table className bytes files).files) ∧
    ∀ (table' : InternTable) (className' : String) (d' : TypeDescriptor),
      (table'.lookup className').bind table'.get? = some d' → d' ≠ d →
        dumpPath dumpRoot d' ≠ dumpPath dumpRoot d ∧ ∀ workingDirectory,
          (dumpPath dumpRoot d').place workingDirectory ≠ (dumpPath dumpRoot d).place workingDirectory := by
  have hconfined := confined_dumpPath dumpRoot d
  refine ⟨⟨dumpNames d, hconfined, ?_⟩, fun _ _ d' _ hne => ⟨?_, fun workingDirectory => (dumpPath_ne hne).2⟩⟩
  · rintro a bytes files rfl
    refine (transform_spares a table className bytes files).mono ?_
    rintro place ⟨found, hfound, rfl⟩
    rw [h] at hfound
    cases hfound
    exact hconfined.place files.workingDirectory
  · intro heq
    exact (dumpPath_ne hne).2 (congrArg (Path.place []) heq)

/-- The types of an array of classes and of a primitive. -/
def readTypes : InternTable :=
  ((InternTable.empty.of "[Lcom/foo/Bar;").2.of "int").2

/-- An array is dumped under its descriptor, whose slashes make directories, and a primitive under its keyword. -/
theorem dump_confined_array : ∃ d d', (readTypes.lookup " com.foo.Bar[] ").bind readTypes.get? = some d ∧
    (readTypes.lookup "int").bind readTypes.get? = some d' ∧ d' ≠ d ∧
      dumpPath ⟨"r"⟩ d = ⟨"r/[Lcom/foo/Bar;.class"⟩ ∧ (∃ names, Confined ⟨"r"⟩ (dumpPath ⟨"r"⟩ d) names) ∧
        dumpPath ⟨"r"⟩ d' ≠ dumpPath ⟨"r"⟩ d := by
  obtain ⟨d, hd⟩ := Option.isSome_iff_exists.mp
    (show ((readTypes.lookup " com.foo.Bar[] ").bind readTypes.get?).isSome = true by decide +kernel)
  obtain ⟨d', hd'⟩ := Option.isSome_iff_exists.mp
    (show ((readTypes.lookup "int").bind readTypes.get?).isSome = true by decide +kernel)
  have hpath : ((readTypes.lookup " com.foo.Bar[] ").bind readTypes.get?).map (dumpPath ⟨"r"⟩) =
      some ⟨"r/[Lcom/foo/Bar;.class"⟩ := by
    decide +kernel
  have hother : (readTypes.lookup "int").bind readTypes.get? ≠ (readTypes.lookup " com.foo.Bar[] ").bind readTypes.get? := by
    decide +kernel
  rw [hd] at hpath
  have hne : d' ≠ d := by
    rintro rfl
    exact hother (hd'.trans hd.symm)
  obtain ⟨⟨names, hconfined, -⟩, hothers⟩ := dump_confined hd ⟨"r"⟩
  exact ⟨d, d', hd, hd', hne, Option.some.inj hpath, ⟨names, hconfined⟩, (hothers _ _ d' hd' hne).1⟩

end Engine

end ClassWeaver
