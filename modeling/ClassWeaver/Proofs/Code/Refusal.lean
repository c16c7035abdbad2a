import ClassWeaver.Proofs.Code.Relaxation
import ClassWeaver.Proofs.Code.RoundTrip

/-!
# Bodies that cannot be written

Writing a body can fail for its labels and its frames, which are its author's doing, or for its size. If every label
that it refers to is placed and no two frames stand at one place, size is all that can be wrong: the code array is too
long, a conditional jump too far from its target, or the pool too full for the names of the tables.

## Contents

* `layout_eq_error` — why a body has no layout.
* `eq_poolOverflow_of_tableAttribute`, `eq_poolOverflow_of_frameAttribute` — why a table is not written.
* `encode_eq_error` — why a body is not written.
-/

namespace ClassWeaver

namespace Layout

/-- A round fails at a jump without a long form, or without a target. -/
theorem needsLong_eq_error {l : Layout} {s : PlacedInstruction} {e : Defect} (h : l.needsLong s = .error e) :
    (∃ distance, fitsInWord distance = false ∧ e = .branchOverflow distance) ∨
      ∃ op target, s.instruction = .jump op target ∧ l.offsetOf target = .error e := by
  rw [needsLong] at h
  split at h
  · cases h
  · split at h
    · rename_i op target hi
      split at h
      · rename_i e' he
        cases h
        exact .inr ⟨op, target, hi, he⟩
      · dsimp only at h
        split at h
        · cases h
        · rename_i hfar
          split at h
          · cases h
          · cases h
            exact .inl ⟨_, eq_false_of_ne_true hfar, rfl⟩
    · cases h

/-- The rounds fail where one of them does. -/
theorem rounds_eq_error {is : List (Instruction Label)} {fuel : Nat} {long : List Bool} {e : Defect}
    (hlen : long.length = is.length) (h : rounds is fuel long = some (.error e)) :
    ∃ last : List Bool, last.length = is.length ∧ (of is last).lengthen = .error e := by
  induction fuel generalizing long with
  | zero => cases h
  | succ fuel ih =>
    rw [rounds] at h
    cases hnext : (of is long).lengthen with
    | error e' =>
      rw [hnext] at h
      cases h
      exact ⟨long, hlen, hnext⟩
    | ok next =>
      rw [hnext] at h
      dsimp only at h
      split at h
      · cases h
      · refine ih ?_ h
        obtain ⟨-, rfl⟩ := ((totals_getD (of is long).needsLong false).mapM_eq_ok).mp hnext
        rw [List.length_map, length_steps_of hlen]

end Layout

/-- Increasing offsets leave no gap below zero. -/
theorem Frame.ascending_of_pairwise {κ : Type} {next : Nat} {placed : List (Nat × κ)}
    (hfirst : ∀ p ∈ placed, next ≤ p.1) (h : placed.Pairwise fun p q => p.1 < q.1) : Ascending next placed := by
  induction placed generalizing next with
  | nil => trivial
  | cons p rest ih =>
    rw [List.pairwise_cons] at h
    exact ⟨hfirst p List.mem_cons_self, ih (fun q hq => h.1 q hq) h.2⟩

theorem Frame.pairwise_sorted {π : Type} (g : π → Nat) (frames : List (Frame π)) :
    (sorted g frames).Pairwise fun a b => g a.position ≤ g b.position := by
  have htrans : ∀ a b c : Frame π, decide (g a.position ≤ g b.position) = true →
      decide (g b.position ≤ g c.position) = true → decide (g a.position ≤ g c.position) = true :=
    fun _ _ _ hab hbc => decide_eq_true (Nat.le_trans (of_decide_eq_true hab) (of_decide_eq_true hbc))
  have htotal : ∀ a b : Frame π,
      (decide (g a.position ≤ g b.position) || decide (g b.position ≤ g a.position)) = true := by
    intro a b
    simpa using Nat.le_total (g a.position) (g b.position)
  exact (List.pairwise_mergeSort htrans htotal frames).imp of_decide_eq_true

namespace MethodBody

open ConstantPool (Addition)

variable {b : MethodBody} {l : Layout} {p q : ConstantPool} {e : Defect}

/-- The target of a jump is referred to. -/
theorem mem_uses_of_jump {op : UInt8} {target : Label} (h : .jump op target ∈ b.instructions) : target ∈ b.uses :=
  mem_uses_of_instruction (List.mem_filter.mpr ⟨h, rfl⟩) (List.mem_singleton_self target)

/-- **If every label is placed, a body has a layout** unless a conditional jump is out of reach. -/
theorem layout_eq_error (hplaced : ∀ label ∈ b.uses, ∃ n, b.position? label = some n) (h : b.layout = .error e) :
    ∃ distance, fitsInWord distance = false ∧ e = .branchOverflow distance := by
  rw [layout] at h
  cases hrounds : Layout.rounds b.instructions (b.instructions.countP Instruction.isWidenable + 1)
      (b.instructions.map fun _ => false) with
  | none =>
    have hshort : ∀ x ∈ b.instructions.zip (b.instructions.map fun _ => false), x.2 = true → x.1.isWidenable = true := by
      intro x hx hlong
      obtain ⟨_, -, hfalse⟩ := List.mem_map.mp (List.of_mem_zip hx).2
      rw [← hfalse] at hlong
      cases hlong
    exact absurd hrounds (Layout.rounds_ne_none (List.length_map _) hshort (by omega))
  | some result =>
    rw [hrounds, Option.getD_some] at h
    subst h
    obtain ⟨long, hlen, hlengthen⟩ := Layout.rounds_eq_error (List.length_map _) hrounds
    obtain ⟨front, s, back, hsplit, -, hneeds⟩ := except_mapM_eq_error_iff.mp hlengthen
    have hs : s ∈ (Layout.of b.instructions long).steps := hsplit ▸ List.mem_append_right _ List.mem_cons_self
    rcases Layout.needsLong_eq_error hneeds with hfar | ⟨op, target, hi, htarget⟩
    · exact hfar
    · -- the target has a number, so it has an offset
      have hmem := (List.of_mem_zip (Layout.mem_of_mem_steps hs)).1
      rw [hi] at hmem
      obtain ⟨n, hn⟩ := hplaced target (mem_uses_of_jump hmem)
      rw [position?] at hn
      rw [Layout.offsetOf_of hlen, hn] at htarget
      cases htarget

/-- If its bytes are known, an attribute is missing only a name. -/
theorem eq_poolOverflow_of_name {name : String} {bytes : List UInt8} {assemble : List UInt8 → UInt16 → List Attribute}
    (h : (liftM (Except.ok bytes : Except Defect (List UInt8)) >>= fun bytes => ConstantPool.addUtf8 name >>= fun i =>
      pure (assemble bytes i) : Addition (List Attribute)) p = (.error e, q)) : e = .poolOverflow := by
  rcases Addition.lift_bind_eq_error h with h | ⟨_, -, h⟩
  · cases h
  rcases Addition.bind_eq_error h with h | ⟨i, r, -, h⟩
  · exact ConstantPool.eq_poolOverflow_of_add h
  · cases h

theorem eq_poolOverflow_of_tableAttribute {α : Type} {table : String} {row : α → Except Defect (List UInt8)}
    {rows : List α} {bytes : List UInt8} (hrows : Layout.rowBytes row rows = .ok bytes)
    (h : tableAttribute table row rows p = (.error e, q)) : e = .poolOverflow := by
  rw [tableAttribute, hrows] at h
  split at h
  · cases h
  · exact eq_poolOverflow_of_name h

theorem eq_poolOverflow_of_frameAttribute {frames : List (Frame Label)} {bytes : List UInt8}
    (hframes : Frame.encodeTable l.offsetOf frames = .ok bytes) (h : frameAttribute l frames p = (.error e, q)) :
    e = .poolOverflow := by
  rw [frameAttribute, hframes] at h
  split at h
  · cases h
  · exact eq_poolOverflow_of_name h

/-- The frames can be written if no two of them stand at one place. -/
theorem exists_encodeTable (hl : ∃ xs, l.Settled b.instructions xs) {frames : List (Frame Label)}
    (hfound : ∀ fr ∈ frames, ∀ label ∈ fr.positions, l.Found label)
    (hframes : frames.Pairwise fun f g => b.position? f.position ≠ b.position? g.position) :
    ∃ bytes, Frame.encodeTable l.offsetOf frames = .ok bytes := by
  obtain ⟨xs, hl⟩ := hl
  have hposition : ∀ fr ∈ frames, l.Found fr.position := fun fr hfr =>
    hfound fr hfr _ fr.position_mem
  have hdifferent : frames.Pairwise fun f g => l.resolve f.position ≠ l.resolve g.position := by
    refine hframes.imp_of_mem fun hf hg hne heq => hne ?_
    rw [position?_eq hl (hposition _ hf), position?_eq hl (hposition _ hg), heq]
  have hsorted : (Frame.sorted l.resolve frames).Pairwise fun f g => l.resolve f.position < l.resolve g.position := by
    have hne : (Frame.sorted l.resolve frames).Pairwise fun f g => l.resolve f.position ≠ l.resolve g.position :=
      (List.mergeSort_perm _ _).symm.pairwise hdifferent fun hne => hne.symm
    exact (Frame.pairwise_sorted l.resolve frames).imp₂ (fun _ _ => Nat.lt_of_le_of_ne) hne
  refine ⟨_, (Frame.encodeTable_eq_ok l.totals_resolve).mpr ⟨hfound, ?_, rfl⟩⟩
  exact Frame.ascending_of_pairwise (fun _ _ => Nat.zero_le _) (List.pairwise_map.mpr hsorted)

section

variable {xs : List (Instruction Label × Bool)} (hl : l.Settled b.instructions xs)
  (hplaced : ∀ label ∈ b.uses, ∃ n, b.position? label = some n)

include hl hplaced

/-- What a body refers to is found in its layout. -/
theorem found_of_mem_uses {label : Label} (h : label ∈ b.uses) : l.Found label :=
  (hl.found_iff label).mpr (hplaced label h)

/-- The code array can be written. -/
theorem exists_code : ∃ code, l.code = .ok code := by
  refine ⟨_, Layout.code_eq_ok.mpr ⟨fun s hs label hlabel => ?_, rfl⟩⟩
  rw [hl.steps_eq] at hs
  have hmem := List.mem_map_of_mem (f := Prod.fst) (Layout.mem_of_mem_placed hs)
  rw [hl.instructions] at hmem
  cases hmark : s.instruction.mark? with
  | some marked =>
    -- a mark places the label that it mentions
    rw [Instruction.mark?_eq_some_iff.mp hmark] at hmem hlabel
    rw [List.mem_singleton.mp hlabel]
    exact (hl.found_iff marked).mpr (Layout.exists_positionFrom? hmem 0)
  | none =>
    have hreal : s.instruction ∈ b.instructions.filter (·.mark?.isNone) :=
      List.mem_filter.mpr ⟨hmem, Option.isNone_iff_eq_none.mpr hmark⟩
    exact found_of_mem_uses hl hplaced (mem_uses_of_instruction hreal hlabel)

theorem exists_handlers : ∃ bytes, Layout.rowBytes l.handlerBytes b.handlers = .ok bytes := by
  have hrow : Totals (fun h => handlerRow (h.map l.resolve)) l.handlerBytes :=
    fun _ _ h => (Layout.handlerBytes_eq_ok.mp h).2
  refine ⟨_, (Layout.rowBytes_eq_ok hrow).mpr ⟨fun row hr => Layout.handlerBytes_eq_ok.mpr ⟨?_, rfl⟩, rfl⟩⟩
  exact fun label hlabel => found_of_mem_uses hl hplaced (mem_uses_of_handler hr hlabel)

theorem exists_lines : ∃ bytes, Layout.rowBytes l.lineBytes b.lines = .ok bytes := by
  have hrow : Totals (fun e => lineRow (e.map l.resolve)) l.lineBytes := fun _ _ h => (Layout.lineBytes_eq_ok.mp h).2
  refine ⟨_, (Layout.rowBytes_eq_ok hrow).mpr ⟨fun row hr => Layout.lineBytes_eq_ok.mpr ⟨?_, rfl⟩, rfl⟩⟩
  exact found_of_mem_uses hl hplaced (mem_uses_of_line hr)

theorem exists_variables {rows : List (VariableEntry Label)}
    (hrows : ∀ v ∈ rows, v ∈ b.variableRows ++ b.variableTypes) :
    ∃ bytes, Layout.rowBytes l.variableBytes rows = .ok bytes := by
  have hrow : Totals (fun v => variableRow (v.map l.resolve)) l.variableBytes :=
    fun _ _ h => (Layout.variableBytes_eq_ok.mp h).2
  refine ⟨_, (Layout.rowBytes_eq_ok hrow).mpr ⟨fun v hv => Layout.variableBytes_eq_ok.mpr ⟨?_, rfl⟩, rfl⟩⟩
  exact fun label hlabel => found_of_mem_uses hl hplaced (mem_uses_of_variable (hrows v hv) hlabel)

theorem exists_frames
    (hframes : (b.frames.getD []).Pairwise fun f g => b.position? f.position ≠ b.position? g.position) :
    ∃ bytes, Frame.encodeTable l.offsetOf (b.frames.getD []) = .ok bytes :=
  have hfound : ∀ fr ∈ b.frames.getD [], ∀ label ∈ fr.positions, l.Found label :=
    fun _ hfr _ hlabel => found_of_mem_uses hl hplaced (mem_uses_of_frame hfr hlabel)
  exists_encodeTable ⟨xs, hl⟩ hfound hframes

/-- The attributes are written unless the pool is full. -/
theorem encodeAttributes_eq_error
    (hframes : (b.frames.getD []).Pairwise fun f g => b.position? f.position ≠ b.position? g.position)
    (h : b.encodeAttributes l p = (.error e, q)) : e = .poolOverflow := by
  obtain ⟨_, hlines⟩ := exists_lines hl hplaced
  obtain ⟨_, hrows⟩ := exists_variables hl hplaced fun _ => List.mem_append_left _
  obtain ⟨_, htypes⟩ := exists_variables hl hplaced fun _ => List.mem_append_right _
  obtain ⟨_, hframes⟩ := exists_frames hl hplaced hframes
  rw [encodeAttributes] at h
  rcases Addition.bind_eq_error h with h | ⟨_, _, -, h⟩
  · exact eq_poolOverflow_of_tableAttribute hlines h
  rcases Addition.bind_eq_error h with h | ⟨_, _, -, h⟩
  · exact eq_poolOverflow_of_tableAttribute hrows h
  rcases Addition.bind_eq_error h with h | ⟨_, _, -, h⟩
  · exact eq_poolOverflow_of_tableAttribute htypes h
  rcases Addition.bind_eq_error h with h | ⟨_, _, -, h⟩
  · exact eq_poolOverflow_of_frameAttribute hframes h
  · cases h

end

/-- **A body whose labels are placed**, with its frames at different places, can be written unless something is too
large: the code array, the way from a conditional jump to its target, or the pool. The length of the code array has to
be one that can be counted in 32 bits. -/
theorem encode_eq_error (hsize : ∀ l, b.layout = .ok l → l.span < 4294967296)
    (hplaced : ∀ label ∈ b.uses, ∃ n, b.position? label = some n)
    (hframes : (b.frames.getD []).Pairwise fun f g => b.position? f.position ≠ b.position? g.position)
    (h : b.encode p = (.error e, q)) :
    (∃ size, 65535 < size ∧ e = .codeTooLarge size) ∨
      (∃ distance, fitsInWord distance = false ∧ e = .branchOverflow distance) ∨ e = .poolOverflow := by
  rw [encode] at h
  rcases Addition.lift_bind_eq_error h with h | ⟨l, hlayout, h⟩
  · exact .inr (.inl (layout_eq_error hplaced h))
  obtain ⟨xs, hl⟩ := Layout.layout_settled hlayout (hsize l hlayout)
  split at h
  · rename_i hlarge
    cases h
    exact .inl ⟨_, hlarge, rfl⟩
  obtain ⟨code, hcode⟩ := exists_code hl hplaced
  obtain ⟨handlers, hhandlers⟩ := exists_handlers hl hplaced
  rw [hcode, hhandlers] at h
  rcases Addition.lift_bind_eq_error h with h | ⟨_, -, h⟩
  · cases h
  rcases Addition.lift_bind_eq_error h with h | ⟨_, -, h⟩
  · cases h
  rcases Addition.bind_eq_error h with h | ⟨_, _, -, h⟩
  · exact .inr (.inr (encodeAttributes_eq_error hl hplaced hframes h))
  · cases h

end MethodBody

end ClassWeaver
