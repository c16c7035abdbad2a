import ClassWeaver.ClassFile.Defect
import Mathlib.Data.List.Forall2

/-!
# Edits in a row

Additions to a pool, edits of a class and weavings are of one kind: steps that change a state and may fail, and that
keep the state either way. A sequence of them succeeds when all its steps do, each in the state that the one before it
left, and it fails where the first failing step left the state.

## Contents

* `except_bind_eq_ok`, `except_bind_eq_error`, `except_map_eq_ok`, `except_mapError_eq_ok`, `except_toOption_eq_some` —
  results without a state.
* `except_mapM_eq_ok_iff`, `exists_except_mapM_eq_ok_iff`, `except_mapM_eq_error_iff`, `mapM_eq_ok_of_imp` — a result for
  each item of a list.
* `Edits.bind_eq`, `bind_eq_ok`, `bind_eq_error` — a step and what comes behind it.
* `Edits.lift_eq_ok` — a step that only computes.
* `Edits.get_bind` — looking at the state.
* `Edits.forM_cons_eq_ok`, `forM_append_eq_ok`, `mapM_cons_eq_ok`, `mapM_append_eq_ok` — a step for each item of a list.
* `Edits.Through`, `forM_eq_ok_iff`, `mapM_eq_ok_iff` — the same, by all the states in between.
-/

namespace ClassWeaver

/-! ## Results -/

theorem except_bind_eq_ok {α β ε : Type} {x : Except ε α} {f : α → Except ε β} {y : β} :
    (x >>= f) = .ok y ↔ ∃ a, x = .ok a ∧ f a = .ok y := by
  cases x with
  | error e => exact iff_of_false nofun fun ⟨_, h, _⟩ => nomatch h
  | ok a =>
    constructor
    · exact fun h => ⟨a, rfl, h⟩
    · rintro ⟨a, h, hf⟩
      cases h
      exact hf

theorem except_bind_eq_error {α β ε : Type} {x : Except ε α} {f : α → Except ε β} {e : ε} :
    (x >>= f) = .error e ↔ x = .error e ∨ ∃ a, x = .ok a ∧ f a = .error e := by
  cases x with
  | error e' =>
    constructor
    · intro h
      cases h
      exact .inl rfl
    · rintro (h | ⟨a, h, -⟩)
      · cases h
        rfl
      · cases h
  | ok a =>
    constructor
    · exact fun h => .inr ⟨a, rfl, h⟩
    · rintro (h | ⟨a, h, hf⟩)
      · cases h
      · cases h
        exact hf

theorem except_map_eq_ok {α β ε : Type} {x : Except ε α} {f : α → β} {y : β} :
    f <$> x = .ok y ↔ ∃ a, x = .ok a ∧ f a = y := by
  cases x with
  | error e => exact iff_of_false nofun fun ⟨_, h, _⟩ => nomatch h
  | ok a =>
    constructor
    · intro h
      cases h
      exact ⟨a, rfl, rfl⟩
    · rintro ⟨a, h, rfl⟩
      cases h
      rfl

/-- A result with its failure wrapped. -/
theorem except_mapError_eq_ok {α ε δ : Type} {wrap : ε → δ} {result : Except ε α} {x : α} :
    result.mapError wrap = .ok x ↔ result = .ok x := by
  cases result with
  | error e => exact iff_of_false nofun nofun
  | ok y =>
    show Except.ok y = .ok x ↔ _
    rw [Except.ok.injEq, Except.ok.injEq]

theorem except_toOption_eq_some {α ε : Type} {x : Except ε α} {a : α} : x.toOption = some a ↔ x = .ok a := by
  cases x with
  | error e => exact iff_of_false nofun nofun
  | ok b =>
    show some b = some a ↔ _
    rw [Option.some.injEq, Except.ok.injEq]

/-- **Results for all items of a list** are a result for each. -/
theorem except_mapM_eq_ok_iff {α β ε : Type} {f : α → Except ε β} {as : List α} {bs : List β} :
    as.mapM f = .ok bs ↔ List.Forall₂ (fun a b => f a = .ok b) as bs := by
  induction as generalizing bs with
  | nil =>
    rw [List.mapM_nil, List.forall₂_nil_left_iff]
    exact ⟨fun h => (Except.ok.inj h).symm, fun h => congrArg Except.ok h.symm⟩
  | cons a as ih =>
    rw [List.mapM_cons, except_bind_eq_ok, List.forall₂_cons_left_iff]
    constructor
    · rintro ⟨b, hb, h⟩
      obtain ⟨rest, hrest, heq⟩ := except_bind_eq_ok.mp h
      exact ⟨b, rest, hb, ih.mp hrest, (Except.ok.inj heq).symm⟩
    · rintro ⟨b, rest, hb, hrest, rfl⟩
      exact ⟨b, hb, except_bind_eq_ok.mpr ⟨rest, ih.mpr hrest, rfl⟩⟩

/-- There are results for all items if there is one for each. -/
theorem exists_except_mapM_eq_ok_iff {α β ε : Type} {f : α → Except ε β} {as : List α} :
    (∃ bs, as.mapM f = .ok bs) ↔ ∀ a ∈ as, ∃ b, f a = .ok b := by
  induction as with
  | nil => exact iff_of_true ⟨[], rfl⟩ nofun
  | cons a as ih =>
    rw [List.forall_mem_cons, ← ih]
    constructor
    · rintro ⟨bs, h⟩
      obtain ⟨b, rest, hb, hrest, -⟩ := List.forall₂_cons_left_iff.mp (except_mapM_eq_ok_iff.mp h)
      exact ⟨⟨b, hb⟩, rest, except_mapM_eq_ok_iff.mpr hrest⟩
    · rintro ⟨⟨b, hb⟩, rest, hrest⟩
      exact ⟨b :: rest, except_mapM_eq_ok_iff.mpr (.cons hb (except_mapM_eq_ok_iff.mp hrest))⟩

/-- **The first item without a result** decides how the whole fails. -/
theorem except_mapM_eq_error_iff {α β ε : Type} {f : α → Except ε β} {as : List α} {e : ε} :
    as.mapM f = .error e ↔
      ∃ front a back, as = front ++ a :: back ∧ (∀ x ∈ front, ∃ b, f x = .ok b) ∧ f a = .error e := by
  induction as with
  | nil =>
    refine iff_of_false nofun ?_
    rintro ⟨front, a, back, h, -⟩
    simp at h
  | cons a as ih =>
    rw [List.mapM_cons, except_bind_eq_error]
    constructor
    · rintro (h | ⟨b, hb, h⟩)
      · exact ⟨[], a, as, rfl, nofun, h⟩
      · obtain h | ⟨bs, -, h⟩ := except_bind_eq_error.mp h
        · obtain ⟨front, a', back, rfl, hfront, h⟩ := ih.mp h
          exact ⟨a :: front, a', back, rfl, List.forall_mem_cons.mpr ⟨⟨b, hb⟩, hfront⟩, h⟩
        · cases h
    · rintro ⟨front, a', back, hsplit, hfront, h⟩
      cases front with
      | nil =>
        cases hsplit
        exact .inl h
      | cons x front =>
        cases hsplit
        obtain ⟨⟨b, hb⟩, hfront⟩ := List.forall_mem_cons.mp hfront
        exact .inr ⟨b, hb, except_bind_eq_error.mpr (.inl (ih.mpr ⟨front, a', back, rfl, hfront, h⟩))⟩

/-- A look-up that finds all that another one finds does so for every item of a list. -/
theorem mapM_eq_ok_of_imp {α β ε : Type} {f g : α → Except ε β} (hfg : ∀ a b, f a = .ok b → g a = .ok b) {as : List α}
    {bs : List β} (h : as.mapM f = .ok bs) : as.mapM g = .ok bs :=
  except_mapM_eq_ok_iff.mpr ((except_mapM_eq_ok_iff.mp h).imp hfg)

/-- A look-up that fails for every item succeeds for the empty list only. -/
theorem mapM_eq_ok_of_refused {α β ε : Type} {f : α → Except ε β} (hf : ∀ a b, f a ≠ .ok b) {as : List α} {bs : List β}
    (h : as.mapM f = .ok bs) : as = [] ∧ bs = [] := by
  cases except_mapM_eq_ok_iff.mp h with
  | nil => exact ⟨rfl, rfl⟩
  | cons ha _ => exact absurd ha (hf _ _)

/-! ## Steps over a state -/

namespace Edits

variable {ε σ α β : Type} {m : ExceptT ε (StateM σ) α} {f : α → ExceptT ε (StateM σ) β} {s t : σ} {x y : α} {z : β}
  {e : ε}

theorem bind_eq (m : ExceptT ε (StateM σ) α) (f : α → ExceptT ε (StateM σ) β) (s : σ) :
    (m >>= f) s = match m s with
      | (.ok x, t) => f x t
      | (.error e, t) => (.error e, t) := by
  show (StateT.bind m (ExceptT.bindCont f) : StateM σ (Except ε β)) s = _
  simp only [StateT.bind]
  cases m s with
  | mk result t => cases result <;> rfl

/-- A first step that succeeds hands its state on. -/
theorem bind_of_eq_ok {u : σ} (h : m s = (.ok x, u)) : (m >>= f) s = f x u := by
  rw [bind_eq, h]

theorem bind_eq_ok : (m >>= f) s = (.ok z, t) ↔ ∃ x u, m s = (.ok x, u) ∧ f x u = (.ok z, t) := by
  rw [bind_eq]
  cases m s with
  | mk result u =>
    cases result with
    | error e =>
      refine iff_of_false nofun ?_
      rintro ⟨x, u', h, -⟩
      cases h
    | ok x =>
      constructor
      · exact fun h => ⟨x, u, rfl, h⟩
      · rintro ⟨x', u', h, hf⟩
        cases h
        exact hf

/-- A sequence fails where one of its steps does. -/
theorem bind_eq_error (h : (m >>= f) s = (.error e, t)) :
    m s = (.error e, t) ∨ ∃ x u, m s = (.ok x, u) ∧ f x u = (.error e, t) := by
  rw [bind_eq] at h
  cases hm : m s with
  | mk result u =>
    rw [hm] at h
    cases result with
    | error e' =>
      cases h
      exact .inl rfl
    | ok x => exact .inr ⟨x, u, rfl, h⟩

theorem pure_eq_ok : (pure x : ExceptT ε (StateM σ) α) s = (.ok y, t) ↔ x = y ∧ s = t := by
  show (Except.ok x, s) = (.ok y, t) ↔ _
  rw [Prod.mk.injEq, Except.ok.injEq]

/-- A step that only computes leaves the state alone. -/
theorem lift_eq_ok {result : Except ε α} :
    (liftM result : ExceptT ε (StateM σ) α) s = (.ok x, t) ↔ result = .ok x ∧ s = t := by
  show (result, s) = (.ok x, t) ↔ _
  rw [Prod.mk.injEq]

theorem lift_bind_eq_ok {result : Except ε α} :
    (liftM result >>= f) s = (.ok z, t) ↔ ∃ x, result = .ok x ∧ f x s = (.ok z, t) := by
  rw [bind_eq_ok]
  constructor
  · rintro ⟨x, u, hx, h⟩
    obtain ⟨hresult, rfl⟩ := lift_eq_ok.mp hx
    exact ⟨x, hresult, h⟩
  · rintro ⟨x, hx, h⟩
    exact ⟨x, s, lift_eq_ok.mpr ⟨hx, rfl⟩, h⟩

/-- Looking at the state is handing it to what comes behind. -/
theorem get_bind {f : σ → ExceptT ε (StateM σ) β} : (get >>= f) s = f s s :=
  rfl

/-- A state that is set is the one that what comes behind starts from. -/
theorem set_bind {f : PUnit → ExceptT ε (StateM σ) β} {u : σ} : (set u >>= f) s = f ⟨⟩ u :=
  rfl

theorem forM_nil_eq_ok {f : α → ExceptT ε (StateM σ) PUnit} : ([].forM f) s = (.ok ⟨⟩, t) ↔ s = t := by
  show (pure ⟨⟩ : ExceptT ε (StateM σ) PUnit) s = (.ok ⟨⟩, t) ↔ s = t
  rw [pure_eq_ok]
  exact and_iff_right rfl

theorem forM_cons_eq_ok {a : α} {as : List α} {f : α → ExceptT ε (StateM σ) PUnit} :
    ((a :: as).forM f) s = (.ok ⟨⟩, t) ↔ ∃ u, f a s = (.ok ⟨⟩, u) ∧ (as.forM f) u = (.ok ⟨⟩, t) := by
  show (f a >>= fun _ => as.forM f) s = (.ok ⟨⟩, t) ↔ _
  rw [bind_eq_ok]
  constructor
  · rintro ⟨x, u, hu, h⟩
    exact ⟨u, hu, h⟩
  · rintro ⟨u, hu, h⟩
    exact ⟨⟨⟩, u, hu, h⟩

theorem forM_append_eq_ok {as bs : List α} {f : α → ExceptT ε (StateM σ) PUnit} :
    ((as ++ bs).forM f) s = (.ok ⟨⟩, t) ↔ ∃ u, (as.forM f) s = (.ok ⟨⟩, u) ∧ (bs.forM f) u = (.ok ⟨⟩, t) := by
  induction as generalizing s with
  | nil =>
    constructor
    · exact fun h => ⟨s, forM_nil_eq_ok.mpr rfl, h⟩
    · rintro ⟨u, hu, h⟩
      exact forM_nil_eq_ok.mp hu ▸ h
  | cons a as ih =>
    rw [List.cons_append, forM_cons_eq_ok]
    constructor
    · rintro ⟨u, hu, h⟩
      obtain ⟨v, hv, h⟩ := ih.mp h
      exact ⟨v, forM_cons_eq_ok.mpr ⟨u, hu, hv⟩, h⟩
    · rintro ⟨v, hv, h⟩
      obtain ⟨u, hu, hv⟩ := forM_cons_eq_ok.mp hv
      exact ⟨u, hu, ih.mpr ⟨v, hv, h⟩⟩

theorem forM_map {f : α → β} {g : β → ExceptT ε (StateM σ) PUnit} (as : List α) :
    (as.map f).forM g = as.forM fun a => g (f a) := by
  induction as with
  | nil => rfl
  | cons a as ih =>
    show (g (f a) >>= fun _ => (as.map f).forM g) = g (f a) >>= fun _ => as.forM fun a => g (f a)
    rw [ih]

theorem mapM_nil_eq_ok {f : α → ExceptT ε (StateM σ) β} {bs : List β} :
    ([].mapM f) s = (.ok bs, t) ↔ bs = [] ∧ s = t := by
  rw [List.mapM_nil, pure_eq_ok]
  exact and_congr_left fun _ => eq_comm

theorem mapM_cons_eq_ok {a : α} {as : List α} {f : α → ExceptT ε (StateM σ) β} {bs : List β} :
    ((a :: as).mapM f) s = (.ok bs, t) ↔
      ∃ b u rest, f a s = (.ok b, u) ∧ (as.mapM f) u = (.ok rest, t) ∧ bs = b :: rest := by
  rw [List.mapM_cons, bind_eq_ok]
  constructor
  · rintro ⟨b, u, hb, h⟩
    obtain ⟨rest, v, hrest, h⟩ := bind_eq_ok.mp h
    obtain ⟨rfl, rfl⟩ := pure_eq_ok.mp h
    exact ⟨b, u, rest, hb, hrest, rfl⟩
  · rintro ⟨b, u, rest, hb, hrest, rfl⟩
    exact ⟨b, u, hb, bind_eq_ok.mpr ⟨rest, t, hrest, rfl⟩⟩

theorem mapM_append_eq_ok {as as' : List α} {f : α → ExceptT ε (StateM σ) β} {bs bs' : List β} {u : σ}
    (h : (as.mapM f) s = (.ok bs, u)) (h' : (as'.mapM f) u = (.ok bs', t)) :
    ((as ++ as').mapM f) s = (.ok (bs ++ bs'), t) := by
  induction as generalizing s bs with
  | nil =>
    obtain ⟨rfl, rfl⟩ := mapM_nil_eq_ok.mp h
    exact h'
  | cons a as ih =>
    obtain ⟨b, v, rest, hb, hrest, rfl⟩ := mapM_cons_eq_ok.mp h
    rw [List.cons_append]
    exact mapM_cons_eq_ok.mpr ⟨b, v, rest ++ bs', hb, ih hrest, rfl⟩

/-! ### By the states in between -/

/-- The states that steps for the items of a list lead through, from the first one to the last one. -/
structure Through (step : α → σ → σ → Prop) (as : List α) (states : Nat → σ) (s t : σ) : Prop where
  first : states 0 = s
  last : states as.length = t
  each : ∀ i (h : i < as.length), step as[i] (states i) (states (i + 1))

section

variable {step step' : α → σ → σ → Prop} {a : α} {as : List α} {states : Nat → σ} {u : σ}

theorem Through.behind (h : Through step (a :: as) states s t) :
    step a s (states 1) ∧ Through step as (fun i => states (i + 1)) (states 1) t :=
  ⟨h.first ▸ h.each 0 (Nat.succ_pos _), rfl, h.last, fun i hi => h.each (i + 1) (Nat.succ_lt_succ hi)⟩

theorem Through.before (ha : step a s u) (h : Through step as states u t) :
    Through step (a :: as) (fun | 0 => s | i + 1 => states i) s t := by
  refine ⟨rfl, h.last, fun i hi => ?_⟩
  cases i with
  | zero =>
    show step a s (states 0)
    rw [h.first]
    exact ha
  | succ i => exact h.each i (Nat.lt_of_succ_lt_succ hi)

theorem through_nil_iff : (∃ states, Through step [] states s t) ↔ s = t := by
  constructor
  · rintro ⟨states, h⟩
    exact h.first.symm.trans h.last
  · rintro rfl
    exact ⟨fun _ => s, rfl, rfl, nofun⟩

theorem through_cons_iff : (∃ states, Through step (a :: as) states s t) ↔
    ∃ u, step a s u ∧ ∃ states, Through step as states u t := by
  constructor
  · rintro ⟨states, h⟩
    exact ⟨_, h.behind.1, _, h.behind.2⟩
  · rintro ⟨u, ha, states, h⟩
    exact ⟨_, h.before ha⟩

theorem Through.imp (h : Through step as states s t) (hstep : ∀ a u v, step a u v → step' a u v) :
    Through step' as states s t :=
  ⟨h.first, h.last, fun i hi => hstep _ _ _ (h.each i hi)⟩

/-- **What holds of the first state and is kept by all steps** holds of all states. -/
theorem Through.holds {P : σ → Prop} (h : Through step as states s t) (hs : P s)
    (hstep : ∀ i (hi : i < as.length), P (states i) → step as[i] (states i) (states (i + 1)) → P (states (i + 1))) :
    ∀ i ≤ as.length, P (states i) := by
  intro i hi
  induction i with
  | zero => exact h.first.symm ▸ hs
  | succ i ih => exact hstep i hi (ih (Nat.le_of_succ_le hi)) (h.each i hi)

end

/-- **A step for each item succeeds** if there are states that lead from the first one to the last one. -/
theorem forM_eq_ok_iff {as : List α} {f : α → ExceptT ε (StateM σ) PUnit} :
    (as.forM f) s = (.ok ⟨⟩, t) ↔ ∃ states, Through (fun a u v => f a u = (.ok ⟨⟩, v)) as states s t := by
  induction as generalizing s with
  | nil => rw [forM_nil_eq_ok, through_nil_iff]
  | cons a as ih =>
    rw [forM_cons_eq_ok, through_cons_iff]
    exact exists_congr fun u => and_congr_right fun _ => ih

/-- The same for steps that have answers, which come in the order of the items. -/
theorem mapM_eq_ok_iff {as : List α} {f : α → ExceptT ε (StateM σ) β} {bs : List β} :
    (as.mapM f) s = (.ok bs, t) ↔ bs.length = as.length ∧
      ∃ states, Through (fun (ab : α × β) u v => f ab.1 u = (.ok ab.2, v)) (as.zip bs) states s t := by
  induction as generalizing s bs with
  | nil =>
    rw [mapM_nil_eq_ok, List.length_nil, List.length_eq_zero_iff, List.zip_nil_left, through_nil_iff]
  | cons a as ih =>
    rw [mapM_cons_eq_ok]
    constructor
    · rintro ⟨b, u, rest, hb, hrest, rfl⟩
      obtain ⟨hlength, hthrough⟩ := ih.mp hrest
      exact ⟨congrArg (· + 1) hlength, through_cons_iff.mpr ⟨u, hb, hthrough⟩⟩
    · rintro ⟨hlength, hthrough⟩
      cases bs with
      | nil => cases hlength
      | cons b rest =>
        obtain ⟨u, hb, hrest⟩ := through_cons_iff.mp hthrough
        exact ⟨b, u, rest, hb, ih.mpr ⟨Nat.succ.inj hlength, hrest⟩, rfl⟩

end Edits

end ClassWeaver
