import ClassWeaver.Proofs.Code.Emission

/-!
# From offsets to labels

A listing becomes a body by numbering the offsets that it mentions. Different offsets get different numbers, no
number is left out, and each mark goes in front of the instruction at its offset, so a label is as far from the
start of the body as its offset is from the start of the code.

## Contents

* `Numbers`, `numbers_numbering` — what numbering gives.
* `stray?_eq_none` — when every mention is a boundary.
* `filter_marked`, `marks_marked` — the instructions and the marks of the body.
* `positionFrom?_marked` — where the mark of an offset is.
-/

namespace ClassWeaver.Listing

open Layout (positionFrom?)

variable {n : Numbering} {offsets : List Nat} {offset length : Nat} {label : Label}

/-! ## Numbering -/

/-- The offsets of a list and no others have labels, all different, whose numbers are those below their count. -/
structure Numbers (offsets : List Nat) (n : Numbering) : Prop where
  mem : ∀ o : Nat, o ∈ n ↔ o ∈ offsets
  lt : ∀ (o : Nat) (k : Label), n[o]? = some k → k.id < n.size
  injective : ∀ (o o' : Nat) (k : Label), n[o]? = some k → n[o']? = some k → o = o'
  surjective : ∀ id < n.size, ∃ o : Nat, n[o]? = some ⟨id⟩

theorem numbers_empty : Numbers [] ∅ where
  mem _ := iff_of_false Std.TreeMap.not_mem_emptyc List.not_mem_nil
  lt o k h := by
    rw [Std.TreeMap.getElem?_emptyc] at h
    cases h
  injective o o' k h := by
    rw [Std.TreeMap.getElem?_emptyc] at h
    cases h
  surjective id h := absurd h (Nat.not_lt_zero id)

theorem getElem?_insert (n : Numbering) (offset o : Nat) (label : Label) :
    (n.insert offset label)[o]? = if offset = o then some label else n[o]? := by
  rw [Std.TreeMap.getElem?_insert]
  by_cases h : offset = o
  · rw [if_pos (Nat.compare_eq_eq.mpr h), if_pos h]
  · rw [if_neg (fun heq => h (Nat.compare_eq_eq.mp heq)), if_neg h]

/-- One more offset keeps its label, or gets the next one. -/
theorem Numbers.next (h : Numbers offsets n) (offset : Nat) : Numbers (offsets ++ [offset]) (numberNext n offset) := by
  rw [numberNext]
  by_cases hold : n.contains offset = true
  · rw [if_pos hold]
    have hmem := (h.mem offset).mp hold
    refine ⟨fun o => ?_, h.lt, h.injective, h.surjective⟩
    rw [h.mem, List.mem_append, List.mem_singleton]
    exact ⟨.inl, fun ho => ho.elim id fun ho => ho ▸ hmem⟩
  · -- the number of labels is not the number of any of them
    rw [if_neg hold]
    have hsize : (n.insert offset ⟨n.size⟩).size = n.size + 1 := by
      rw [Std.TreeMap.size_insert, if_neg hold]
    have hfresh : ∀ (o : Nat) (k : Label), n[o]? = some k → k ≠ ⟨n.size⟩ := by
      rintro o k hk rfl
      exact Nat.lt_irrefl _ (h.lt o _ hk)
    refine ⟨fun o => ?_, fun o k hk => ?_, fun o o' k hk hk' => ?_, fun id hid => ?_⟩
    · rw [Std.TreeMap.mem_insert, h.mem, List.mem_append, List.mem_singleton, Nat.compare_eq_eq, or_comm,
        eq_comm (a := offset)]
    · rw [getElem?_insert] at hk
      rw [hsize]
      split at hk
      · cases hk
        exact Nat.lt_succ_self _
      · exact Nat.lt_succ_of_lt (h.lt o k hk)
    · rw [getElem?_insert] at hk hk'
      split at hk
      · split at hk'
        · omega
        · cases hk
          exact absurd rfl (hfresh o' _ hk')
      · split at hk'
        · cases hk'
          exact absurd rfl (hfresh o _ hk)
        · exact h.injective o o' k hk hk'
    · rw [hsize] at hid
      rcases Nat.lt_or_eq_of_le (Nat.le_of_lt_succ hid) with hlt | rfl
      · obtain ⟨o, ho⟩ := h.surjective id hlt
        refine ⟨o, ?_⟩
        rw [getElem?_insert, if_neg, ho]
        rintro rfl
        refine hold ?_
        rw [Std.TreeMap.contains_iff_mem, Std.TreeMap.mem_iff_isSome_getElem?, ho]
        rfl
      · exact ⟨offset, by rw [getElem?_insert, if_pos rfl]⟩

/-- **The numbering of a listing.** -/
theorem numbers_numbering (l : Listing) : Numbers l.mentions l.numbering := by
  -- the offsets that were met already are those that have labels
  have hfold : ∀ (rest done : List Nat) (n : Numbering), Numbers done n →
      Numbers (done ++ rest) (rest.foldl numberNext n) := by
    intro rest
    induction rest with
    | nil =>
      intro done n h
      rwa [List.append_nil]
    | cons o rest ih =>
      intro done n h
      have := ih (done ++ [o]) (numberNext n o) (h.next o)
      rwa [List.append_assoc] at this
  exact hfold l.mentions [] ∅ numbers_empty

theorem Numbers.getElem?_labelOf (h : Numbers offsets n) (hmem : offset ∈ offsets) :
    n[offset]? = some (labelOf n offset) :=
  Std.TreeMap.getElem?_eq_some_getD ((h.mem offset).mpr hmem)

/-! ## Boundaries -/

theorem mem_boundaries (l : Listing) (o : Nat) : o ∈ l.boundaries ↔ o ∈ l.steps.map Prod.fst ∨ o = l.length := by
  have hfold : ∀ (offsets : List Nat) (t : Std.TreeSet Nat),
      o ∈ offsets.foldl (·.insert ·) t ↔ o ∈ offsets ∨ o ∈ t := by
    intro offsets
    induction offsets with
    | nil => simp
    | cons a rest ih =>
      intro t
      rw [List.foldl_cons, ih, Std.TreeSet.mem_insert, Nat.compare_eq_eq, List.mem_cons, eq_comm (a := a)]
      exact ⟨fun h => h.elim (fun h => .inl (.inr h)) (fun h => h.elim (fun h => .inl (.inl h)) .inr),
        fun h => h.elim (fun h => h.elim (fun h => .inr (.inl h)) .inl) (fun h => .inr (.inr h))⟩
  rw [boundaries, hfold, Std.TreeSet.mem_insert, Nat.compare_eq_eq, eq_comm (a := l.length)]
  refine or_congr_right ⟨fun h => h.elim id fun h => absurd h Std.TreeSet.not_mem_emptyc, .inl⟩

/-- No mention is stray if each is a boundary. -/
theorem stray?_eq_none {l : Listing} (h : ∀ o ∈ l.mentions, o ∈ l.steps.map Prod.fst ∨ o = l.length) :
    l.stray? = none := by
  rw [stray?, List.find?_eq_none]
  intro o ho
  have hmention := (l.numbers_numbering.mem o).mp (Std.TreeMap.mem_keys.mp ho)
  rw [Std.TreeSet.contains_iff_mem.mpr ((l.mem_boundaries o).mpr (h o hmention))]
  exact Bool.false_ne_true

/-! ## Marks -/

variable {steps : List (Nat × Instruction Nat)}

theorem marked_cons (n : Numbering) (s : Nat × Instruction Nat) (steps : List (Nat × Instruction Nat)) (length : Nat) :
    marked n (s :: steps) length = markAt n s.1 ++ s.2.map (labelOf n) :: marked n steps length := by
  simp [marked]

/-- An offset has one mark or none. -/
theorem markAt_eq (n : Numbering) (offset : Nat) : markAt n offset = (n[offset]?).toList.map .mark := by
  rw [markAt]
  split <;> rename_i h <;> rw [h] <;> rfl

theorem filter_markAt (n : Numbering) (offset : Nat) : (markAt n offset).filter (·.mark?.isNone) = [] := by
  rw [markAt_eq]
  cases n[offset]? <;> rfl

theorem marks_markAt (n : Numbering) (offset : Nat) :
    (markAt n offset).filterMap Instruction.mark? = (n[offset]?).toList := by
  rw [markAt_eq]
  cases n[offset]? <;> rfl

theorem mark?_map_labelOf {i : Instruction Nat} (h : i.mark? = none) (n : Numbering) :
    (i.map (labelOf n)).mark? = none := by
  rw [Instruction.mark?_map, h]
  rfl

/-- **Without its marks**, the body has the instructions of the listing. -/
theorem filter_marked (n : Numbering) (h : ∀ s ∈ steps, s.2.mark? = none) (length : Nat) :
    (marked n steps length).filter (·.mark?.isNone) = steps.map fun s => s.2.map (labelOf n) := by
  induction steps with
  | nil => exact filter_markAt n length
  | cons s rest ih =>
    rw [List.forall_mem_cons] at h
    rw [marked_cons, List.filter_append, filter_markAt, List.nil_append, List.filter_cons_of_pos, ih h.2]
    · rfl
    · rw [mark?_map_labelOf h.1]
      rfl

/-- **The marks of the body**, in their order, are the labels of its boundaries. -/
theorem marks_marked (n : Numbering) (h : ∀ s ∈ steps, s.2.mark? = none) (length : Nat) :
    (marked n steps length).filterMap Instruction.mark? =
      (steps.map Prod.fst ++ [length]).filterMap fun o : Nat => n[o]? := by
  induction steps with
  | nil =>
    show (markAt n length).filterMap Instruction.mark? = _
    rw [marks_markAt]
    cases hl : n[length]? <;> simp [hl]
  | cons s rest ih =>
    rw [List.forall_mem_cons] at h
    rw [marked_cons, List.filterMap_append, marks_markAt, List.filterMap_cons_none (mark?_map_labelOf h.1 n), ih h.2,
      List.map_cons, List.cons_append]
    cases hs : n[s.1]? <;> simp [hs]

/-- No label marks two places. -/
theorem Numbers.nodup_marks (hn : Numbers offsets n) (h : ∀ s ∈ steps, s.2.mark? = none)
    (hsorted : (steps.map Prod.fst ++ [length]).Pairwise (· < ·)) :
    ((marked n steps length).filterMap Instruction.mark?).Nodup := by
  rw [marks_marked n h]
  refine hsorted.filterMap _ ?_
  intro o o' hlt k hk k' hk' heq
  subst heq
  exact Nat.ne_of_lt hlt (hn.injective o o' k hk hk')

/-- Among the marks of other offsets, only that of its own counts for a label. -/
theorem Numbers.positionFrom?_markAt (hn : Numbers offsets n) (hlabel : n[offset]? = some label) (o before : Nat)
    (rest : List (Instruction Label)) :
    positionFrom? label before (markAt n o ++ rest) =
      (positionFrom? label before rest).or (if o = offset then some before else none) := by
  rw [markAt_eq]
  cases ho : n[o]? with
  | none =>
    have hne : o ≠ offset := by
      rintro rfl
      rw [hlabel] at ho
      cases ho
    rw [if_neg hne, Option.or_none]
    rfl
  | some k =>
    have hsame : k = label ↔ o = offset := by
      constructor
      · rintro rfl
        exact hn.injective o offset k ho hlabel
      · rintro rfl
        rw [ho] at hlabel
        exact Option.some.inj hlabel
    show (positionFrom? label before rest).or (if k = label then some before else none) = _
    simp only [hsame]

/-- **Where the mark of an offset is**: in front of the instruction at that offset, behind those in front of it. -/
theorem Numbers.positionFrom?_marked (hn : Numbers offsets n) (h : ∀ s ∈ steps, s.2.mark? = none)
    (hsorted : (steps.map Prod.fst ++ [length]).Pairwise (· < ·)) (hlabel : n[offset]? = some label) (before : Nat) :
    positionFrom? label before (marked n steps length) =
      if offset ∈ steps.map Prod.fst ++ [length] then some (before + steps.countP (·.1 < offset)) else none := by
  induction steps generalizing before with
  | nil =>
    have hmark := hn.positionFrom?_markAt hlabel length before []
    rw [List.append_nil] at hmark
    show positionFrom? label before (markAt n length) = _
    rw [hmark]
    simp [positionFrom?, eq_comm (a := length)]
  | cons s rest ih =>
    rw [List.forall_mem_cons] at h
    rw [List.map_cons, List.cons_append, List.pairwise_cons] at hsorted
    obtain ⟨hfirst, hsorted⟩ := hsorted
    have hreal : positionFrom? label before (s.2.map (labelOf n) :: marked n rest length) =
        positionFrom? label (before + 1) (marked n rest length) := by
      rw [positionFrom?, mark?_map_labelOf h.1]
    rw [marked_cons, hn.positionFrom?_markAt hlabel, hreal, ih h.2 hsorted, List.map_cons, List.cons_append]
    by_cases hs : s.1 = offset
    · -- the mark is here, and no later offset is this one
      subst hs
      have hlater : s.1 ∉ rest.map Prod.fst ++ [length] := fun hmem => Nat.lt_irrefl _ (hfirst s.1 hmem)
      have hcount : (s :: rest).countP (·.1 < s.1) = 0 := by
        rw [List.countP_eq_zero]
        intro t ht hlt
        have hlt := of_decide_eq_true hlt
        rcases List.mem_cons.mp ht with rfl | ht
        · exact Nat.lt_irrefl _ hlt
        · have := hfirst t.1 (List.mem_append_left _ (List.mem_map_of_mem ht))
          omega
      rw [if_neg hlater, if_pos rfl, if_pos List.mem_cons_self, hcount]
      rfl
    · -- this instruction stands in front of every later offset
      rw [if_neg hs, Option.or_none]
      by_cases hmem : offset ∈ rest.map Prod.fst ++ [length]
      · have hcount : (s :: rest).countP (·.1 < offset) = rest.countP (·.1 < offset) + 1 :=
          List.countP_cons_of_pos (decide_eq_true (hfirst offset hmem))
        rw [if_pos hmem, if_pos (List.mem_cons_of_mem _ hmem), hcount]
        congr 1
        omega
      · rw [if_neg hmem, if_neg fun h => (List.mem_cons.mp h).elim (fun h => hs h.symm) hmem]

end ClassWeaver.Listing
