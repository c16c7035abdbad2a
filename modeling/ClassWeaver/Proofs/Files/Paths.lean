import ClassWeaver.Files.Tree

/-!
# Where paths lead

A path names a place by its spelling, whatever files there are: its names are followed one by one, a single dot stays and
two dots lead up. A path behind another one leads on from the place of that one, unless it starts from the top. So a name
that could be the name of a file leads to a place right below, and names like that in a row lead as far down as there are
names; no other text can be relied on to stay below.

## Contents

* `Path.IsEntryName` — the names that files can have, as far as paths are concerned.
* `isAbsolute_join`, `place_join` — a path behind another one, and its place.
* `place_join_entry`, `place_join_segments`, `place_join_names`, `place_joinAll` — places below.
* `segments_injective` — paths and their names.
-/

namespace ClassWeaver.Path

/-! ## Names -/

/-- A name that leads to a place right below: it is one name, and not one of those that lead nowhere or up. -/
structure IsEntryName (name : String) : Prop where
  ne_empty : name ≠ ""
  ne_dot : name ≠ "."
  ne_dots : name ≠ ".."
  noSlash : '/' ∉ name.toList

instance (name : String) : Decidable (IsEntryName name) :=
  decidable_of_iff (name ≠ "" ∧ name ≠ "." ∧ name ≠ ".." ∧ '/' ∉ name.toList)
    ⟨fun ⟨hempty, hdot, hdots, hslash⟩ => ⟨hempty, hdot, hdots, hslash⟩,
      fun ⟨hempty, hdot, hdots, hslash⟩ => ⟨hempty, hdot, hdots, hslash⟩⟩

variable {workingDirectory place : Location} {p : Path} {name : String}

theorem step_entry (h : IsEntryName name) : step place name = place ++ [name] := by
  unfold step
  rw [if_neg (by simp [h.ne_empty, h.ne_dot]), if_neg (by simp [h.ne_dots])]

/-- A text without slashes is one name. -/
theorem segments_eq_singleton (h : '/' ∉ name.toList) : (Path.mk name).segments = [name] := by
  unfold segments
  rw [Text.split_eq_singleton h, List.map_cons, String.ofList_toList]
  rfl

theorem isAbsolute_eq_false_of_noSlash (h : '/' ∉ name.toList) : (Path.mk name).isAbsolute = false := by
  unfold isAbsolute
  rw [beq_eq_false_iff_ne]
  intro hhead
  exact h (List.mem_of_mem_head? hhead)

/-! ## One path behind another -/

/-- A path that is no empty text, with a slash at its end in any case. -/
theorem exists_toList_join (hname : (Path.mk name).isAbsolute = false) (hp : p.text ≠ "") :
    ∃ front, (p.join name).text.toList = front ++ '/' :: name.toList ∧
      (p.text.toList = front ∨ p.text.toList = front ++ ['/']) := by
  unfold join
  rw [if_neg (by simp [hname])]
  by_cases hlast : p.text.toList.getLast? = some '/'
  · obtain ⟨front, hfront⟩ := List.getLast?_eq_some_iff.mp hlast
    rw [if_pos (by simp [hlast]), String.toList_append]
    exact ⟨front, by rw [hfront, List.append_assoc]; rfl, .inr hfront⟩
  · rw [if_neg (by simp [hlast, hp]), String.toList_append, String.toList_append]
    exact ⟨p.text.toList, by rw [List.append_assoc]; rfl, .inl rfl⟩

/-- A path behind another one starts where that one does. -/
theorem isAbsolute_join (hname : (Path.mk name).isAbsolute = false) : (p.join name).isAbsolute = p.isAbsolute := by
  by_cases hp : p.text = ""
  · have hjoin : p.join name = ⟨name⟩ := by
      unfold join
      rw [if_neg (by simp [hname]), if_pos (by simp [hp]), hp, String.empty_append]
    rw [hjoin, hname]
    unfold isAbsolute
    rw [hp]
    rfl
  · obtain ⟨front, hjoin, hfront⟩ := exists_toList_join hname hp
    unfold isAbsolute
    rw [hjoin]
    cases front with
    | nil =>
      rcases hfront with hfront | hfront
      · exact absurd (String.toList_eq_nil_iff.mp hfront) hp
      · rw [hfront]
        rfl
    | cons c front =>
      rcases hfront with hfront | hfront
      · rw [hfront]
        rfl
      · rw [hfront]
        rfl

/-- **A path behind another one leads on from where that one leads.** -/
theorem place_join (hname : (Path.mk name).isAbsolute = false) :
    (p.join name).place workingDirectory = (Path.mk name).segments.foldl step (p.place workingDirectory) := by
  by_cases hp : p.text = ""
  · have hjoin : p.join name = ⟨name⟩ := by
      unfold join
      rw [if_neg (by simp [hname]), if_pos (by simp [hp]), hp, String.empty_append]
    have hnowhere : p.place workingDirectory = workingDirectory := by
      unfold Path.place isAbsolute segments
      rw [hp]
      rfl
    rw [hjoin, hnowhere, Path.place, hname]
    rfl
  · obtain ⟨front, hjoin, hfront⟩ := exists_toList_join hname hp
    -- a slash at the end of the first path adds an empty name, which leads nowhere
    have hsegments (place : Location) : (p.join name).segments.foldl step place =
        (Path.mk name).segments.foldl step (p.segments.foldl step place) := by
      unfold segments
      rw [hjoin, Text.split_append, List.map_append, List.foldl_append]
      rcases hfront with hfront | hfront
      · rw [hfront]
      · rw [hfront, Text.split_append, List.map_append, List.foldl_append]
        rfl
    unfold Path.place
    rw [hsegments, isAbsolute_join hname]

/-- **A name leads right below.** -/
theorem place_join_entry (h : IsEntryName name) :
    (p.join name).place workingDirectory = p.place workingDirectory ++ [name] := by
  rw [place_join (isAbsolute_eq_false_of_noSlash h.noSlash), segments_eq_singleton h.noSlash]
  exact step_entry h

/-- Different names lead to different places. -/
theorem place_join_ne {other : String} (h : IsEntryName name) (hother : IsEntryName other) (hne : name ≠ other) :
    (p.join name).place workingDirectory ≠ (p.join other).place workingDirectory := by
  rw [place_join_entry h, place_join_entry hother, Ne, List.append_cancel_left_eq]
  simpa using hne

/-! ## Names in a row -/

theorem foldl_step_names {names : List String} (h : ∀ name ∈ names, IsEntryName name) (place : Location) :
    names.foldl step place = place ++ names := by
  induction names generalizing place with
  | nil => rw [List.foldl_nil, List.append_nil]
  | cons name names ih =>
    obtain ⟨hname, hnames⟩ := List.forall_mem_cons.mp h
    rw [List.foldl_cons, step_entry hname, ih hnames, List.append_assoc]
    rfl

/-- Names with slashes between them are read back. -/
theorem segments_intercalate {names : List String} (hne : names ≠ []) (h : ∀ name ∈ names, '/' ∉ name.toList) :
    (Path.mk ("/".intercalate names)).segments = names := by
  have hslash : "/".toList = ['/'] := rfl
  unfold segments
  rw [String.toList_intercalate, hslash, Text.split_intercalate (by simpa using hne) (List.forall_mem_map.mpr h), List.map_map]
  exact (List.map_congr_left fun name _ => String.ofList_toList).trans (List.map_id names)

/-- A path from the top has an empty name in front. -/
theorem isAbsolute_eq_false_of_segments (h : ∀ name ∈ p.segments, IsEntryName name) : p.isAbsolute = false := by
  unfold isAbsolute
  rw [beq_eq_false_iff_ne]
  intro hhead
  obtain ⟨rest, hrest⟩ := List.head?_eq_some_iff.mp hhead
  have hempty : "" ∈ p.segments := by
    unfold segments
    rw [hrest]
    exact List.mem_cons_self
  exact (h "" hempty).ne_empty rfl

/-- **A path of such names leads as far down as it has names.** -/
theorem place_join_segments (h : ∀ part ∈ (Path.mk name).segments, IsEntryName part) :
    (p.join name).place workingDirectory = p.place workingDirectory ++ (Path.mk name).segments := by
  rw [place_join (isAbsolute_eq_false_of_segments h), foldl_step_names h]

/-- **Names in a row lead as far down as there are names.** -/
theorem place_join_names {names : List String} (hne : names ≠ []) (h : ∀ name ∈ names, IsEntryName name) :
    (p.join ("/".intercalate names)).place workingDirectory = p.place workingDirectory ++ names := by
  have hsegments := segments_intercalate hne fun name hname => (h name hname).noSlash
  rw [place_join_segments (hsegments.symm ▸ h), hsegments]

/-- Names put behind a path one by one. -/
theorem place_joinAll {names : List String} (h : ∀ name ∈ names, IsEntryName name) :
    (p.joinAll names).place workingDirectory = p.place workingDirectory ++ names := by
  induction names generalizing p with
  | nil => exact (List.append_nil _).symm
  | cons name names ih =>
    obtain ⟨hname, hnames⟩ := List.forall_mem_cons.mp h
    show ((p.join name).joinAll names).place workingDirectory = _
    rw [ih hnames, place_join_entry hname, List.append_assoc]
    rfl

/-- The names of a path tell the path. -/
theorem segments_injective {q : Path} (h : p.segments = q.segments) : p = q := by
  unfold segments at h
  have hparts := (List.map_inj_right fun _ _ heq => String.ofList_injective heq).mp h
  exact congrArg Path.mk (String.toList_inj.mp (Text.split_injective hparts))

end ClassWeaver.Path
