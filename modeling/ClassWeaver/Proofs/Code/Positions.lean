import ClassWeaver.Code.Body

/-!
# Positions and their renaming

Labels become offsets when a body is written and offsets become labels when it is read; in between nothing but the
positions changes. A look-up that may fail is, where it succeeds, the renaming by any total function that agrees
with it.

## Contents

* `Totals` — a look-up and a total function that agree.
* `forall_positions_map` — what holds of the positions of renamed rows.
* `Instruction.mark?`, `Instruction.mapM_eq_ok` — looking positions up is renaming them.
* `positions_map`, `map_map` — the positions of what was renamed, and renaming twice.
* `map_congr` — renamings that agree on the positions.
-/

namespace ClassWeaver

variable {π ρ κ ε : Type}

/-- `g` agrees with the look-up `f` where that succeeds. -/
def Totals (g : π → ρ) (f : π → Except ε ρ) : Prop :=
  ∀ p q, f p = .ok q → g p = q

section

variable {α β : Type} {f : α → Except ε β} {g : α → β}

theorem Totals.map_eq_ok {γ : Type} (hg : Totals g f) {make : β → γ} {a : α} {c : γ} :
    make <$> f a = .ok c ↔ f a = .ok (g a) ∧ c = make (g a) := by
  constructor
  · intro h
    cases ha : f a with
    | error e => rw [ha] at h; cases h
    | ok b =>
      rw [ha] at h
      cases h
      rw [hg a b ha]
      exact ⟨rfl, rfl⟩
  · rintro ⟨ha, rfl⟩
    rw [ha]
    rfl

theorem Totals.bind_eq_ok {γ : Type} (hg : Totals g f) {next : β → Except ε γ} {a : α} {c : γ} :
    (f a >>= next) = .ok c ↔ f a = .ok (g a) ∧ next (g a) = .ok c := by
  constructor
  · intro h
    cases ha : f a with
    | error e => rw [ha] at h; cases h
    | ok b =>
      rw [ha] at h
      rw [hg a b ha]
      exact ⟨rfl, h⟩
  · rintro ⟨ha, h⟩
    rw [ha]
    exact h

/-- Looking up every item of a list. -/
theorem Totals.mapM_eq_ok (hg : Totals g f) {as : List α} {bs : List β} :
    as.mapM f = .ok bs ↔ (∀ a ∈ as, f a = .ok (g a)) ∧ bs = as.map g := by
  induction as generalizing bs with
  | nil =>
    rw [List.mapM_nil]
    constructor
    · intro h
      cases h
      exact ⟨nofun, rfl⟩
    · rintro ⟨-, rfl⟩
      rfl
  | cons a as ih =>
    rw [List.mapM_cons, hg.bind_eq_ok, List.forall_mem_cons, List.map_cons]
    constructor
    · rintro ⟨ha, h⟩
      cases hrest : as.mapM f with
      | error e => rw [hrest] at h; cases h
      | ok rest =>
        obtain ⟨hall, rfl⟩ := ih.mp hrest
        rw [hrest] at h
        cases h
        exact ⟨⟨ha, hall⟩, rfl⟩
    · rintro ⟨⟨ha, hall⟩, rfl⟩
      refine ⟨ha, ?_⟩
      rw [ih.mpr ⟨hall, rfl⟩]
      rfl

/-- A look-up agrees with its own results, whatever is put in place of the failures. -/
theorem totals_getD (f : α → Except ε β) (b : β) : Totals (fun a => (f a).toOption.getD b) f := by
  intro a c h
  show (f a).toOption.getD b = c
  rw [h]
  rfl

/-- Look-ups that agree on a list. -/
theorem mapM_congr_left {f f' : α → Except ε β} {as : List α} (h : ∀ a ∈ as, f a = f' a) : as.mapM f = as.mapM f' := by
  induction as with
  | nil => rfl
  | cons a as ih =>
    rw [List.forall_mem_cons] at h
    rw [List.mapM_cons, List.mapM_cons, h.1, ih h.2]

theorem Totals.mapM (hg : Totals g f) : Totals (List.map g) (List.mapM f) :=
  fun _ _ h => ((hg.mapM_eq_ok).mp h).2.symm

/-- What holds of the new names of all positions holds of all positions after renaming. -/
theorem forall_positions_map {positions : α → List π} {positions' : β → List ρ} {rename : α → β} {r : π → ρ}
    (hpositions : ∀ a, positions' (rename a) = (positions a).map r) {holds : ρ → Prop} {as : List α}
    (h : ∀ a ∈ as, ∀ p ∈ positions a, holds (r p)) : ∀ b ∈ as.map rename, ∀ q ∈ positions' b, holds q := by
  rw [List.forall_mem_map]
  intro a ha
  rw [hpositions, List.forall_mem_map]
  exact h a ha

end

/-! ## Instructions -/

namespace Instruction

/-- The position that a mark marks. -/
def mark? : Instruction π → Option π
  | mark p => some p
  | _ => none

theorem mark?_eq_some_iff {i : Instruction π} {p : π} : i.mark? = some p ↔ i = .mark p := by
  cases i <;> simp [mark?]

variable {f : π → Except ε ρ} {g : π → ρ}

/-- **Looking positions up is renaming them**, if every position is found. -/
theorem mapM_eq_ok (hg : Totals g f) {i : Instruction π} {j : Instruction ρ} :
    i.mapM f = .ok j ↔ (∀ p ∈ i.positions, f p = .ok (g p)) ∧ j = i.map g := by
  cases i with
  | mark p =>
    rw [mapM, hg.map_eq_ok]
    simp [positions, map]
  | jump op p =>
    rw [mapM, hg.map_eq_ok]
    simp [positions, map]
  | tableSwitch d low high ts =>
    rw [mapM, hg.bind_eq_ok, hg.mapM.bind_eq_ok, hg.mapM_eq_ok]
    simp [positions, map, pure, Except.pure, and_assoc, eq_comm (a := j)]
  | lookupSwitch d ps =>
    have hpair : Totals (fun q : Int32 × π => (q.1, g q.2))
        fun q => (return (q.1, ← f q.2) : Except ε (Int32 × ρ)) := by
      intro q r h
      cases hq : f q.2 with
      | error e => simp [hq, bind, Except.bind] at h
      | ok p =>
        simp only [hq, bind, Except.bind, pure, Except.pure, Except.ok.injEq] at h
        subst h
        exact congrArg (Prod.mk q.1) (hg _ _ hq)
    have hfound : ∀ q : Int32 × π, (return (q.1, ← f q.2) : Except ε (Int32 × ρ)) = .ok (q.1, g q.2) ↔
        f q.2 = .ok (g q.2) := by
      intro q
      cases hq : f q.2 <;> simp [bind, Except.bind, pure, Except.pure]
    rw [mapM, hg.bind_eq_ok, hpair.mapM.bind_eq_ok, hpair.mapM_eq_ok]
    simp only [hfound, positions, List.forall_mem_cons, List.forall_mem_map]
    simp [map, pure, Except.pure, and_assoc, eq_comm (a := j)]
  | _ => simp [mapM, positions, map, pure, Except.pure, eq_comm (a := j)]

theorem positions_map (g : π → ρ) (i : Instruction π) : (i.map g).positions = i.positions.map g := by
  cases i <;> simp [positions, map, Function.comp_def]

theorem map_map (g : π → ρ) (h : ρ → κ) (i : Instruction π) : (i.map g).map h = i.map (h ∘ g) := by
  cases i <;> simp [map]

theorem map_congr {f g : π → ρ} {i : Instruction π} (h : ∀ p ∈ i.positions, f p = g p) : i.map f = i.map g := by
  cases i with
  | mark p | jump op p =>
    rw [map, map, h p (List.mem_singleton_self p)]
  | tableSwitch d low high ts =>
    rw [positions, List.forall_mem_cons] at h
    rw [map, map, h.1, List.map_congr_left h.2]
  | lookupSwitch d ps =>
    rw [positions, List.forall_mem_cons, List.forall_mem_map] at h
    rw [map, map, h.1, List.map_congr_left fun q hq => congrArg (Prod.mk q.1) (h.2 q hq)]
  | _ => rfl

theorem mark?_map (g : π → ρ) (i : Instruction π) : (i.map g).mark? = i.mark?.map g := by
  cases i <;> rfl

end Instruction

/-! ## Tables -/

theorem Handler.positions_map (g : π → ρ) (h : Handler π) : (h.map g).positions = h.positions.map g :=
  rfl

theorem VariableEntry.positions_map (g : π → ρ) (v : VariableEntry π) : (v.map g).positions = v.positions.map g :=
  rfl

namespace VerificationType

theorem positions_map (g : π → ρ) (t : VerificationType π) : (t.map g).positions = t.positions.map g := by
  cases t <;> rfl

theorem map_map (g : π → ρ) (h : ρ → κ) (t : VerificationType π) : (t.map g).map h = t.map (h ∘ g) := by
  cases t <;> rfl

theorem map_congr {f g : π → ρ} {t : VerificationType π} (h : ∀ p ∈ t.positions, f p = g p) : t.map f = t.map g := by
  cases t with
  | uninitialized p => rw [map, map, h p (List.mem_singleton_self p)]
  | _ => rfl

theorem mapAll_congr {f g : π → ρ} {ts : List (VerificationType π)} (h : ∀ p ∈ ts.flatMap positions, f p = g p) :
    ts.map (map f) = ts.map (map g) :=
  List.map_congr_left fun t ht => map_congr fun p hp => h p (List.mem_flatMap.mpr ⟨t, ht, hp⟩)

end VerificationType

namespace FrameKind

theorem positions_map (g : π → ρ) (k : FrameKind π) : (k.map g).positions = k.positions.map g := by
  cases k <;> simp [positions, map, VerificationType.positions_map, List.flatMap_map, List.map_flatMap]

theorem map_map (g : π → ρ) (h : ρ → κ) (k : FrameKind π) : (k.map g).map h = k.map (h ∘ g) := by
  cases k <;> simp [map, VerificationType.map_map]

theorem map_congr {f g : π → ρ} {k : FrameKind π} (h : ∀ p ∈ k.positions, f p = g p) : k.map f = k.map g := by
  cases k with
  | sameWithItem item => rw [map, map, VerificationType.map_congr h]
  | append locals => exact congrArg append (VerificationType.mapAll_congr h)
  | full locals stack =>
    rw [positions, List.flatMap_append, List.forall_mem_append] at h
    exact (congrArg (full · _) (VerificationType.mapAll_congr h.1)).trans
      (congrArg (full _) (VerificationType.mapAll_congr h.2))
  | _ => rfl

end FrameKind

namespace Frame

/-- A frame mentions where it stands. -/
theorem position_mem (f : Frame π) : f.position ∈ f.positions :=
  List.mem_append_right _ (List.mem_singleton_self _)

theorem positions_map (g : π → ρ) (f : Frame π) : (f.map g).positions = f.positions.map g := by
  simp [positions, map, FrameKind.positions_map]

theorem map_map (g : π → ρ) (h : ρ → κ) (f : Frame π) : (f.map g).map h = f.map (h ∘ g) := by
  simp [map, FrameKind.map_map]

end Frame

end ClassWeaver
