import ClassWeaver.Proofs.Code.Offsets
import Mathlib.Data.List.Forall2

/-!
# Relaxation

Laying a body out starts with short jumps and lengthens those that do not reach, so every round is at least as wide as
the one before. A wider choice moves instructions to the back, with one exception: the padding of a switch can
swallow two bytes, so what a jump spans with a switch in it can shrink by two when something in front of it grows.
Lengthening a jump that reaches is therefore never needed, but for two bytes.

## Contents

* `stop_of_isSwitch`, `size_le_of_isSwitch_eq_false` — what a size depends on.
* `Wider`, `Wider.startOf_le` — how far instructions are apart in two choices.
* `Fits`, `Roomy` — choices in which short jumps reach, and those in which they reach with room for the padding.
* `rounds_ne_none` — the rounds come to an end.
* `lengthen_of_roomy`, `rounds_of_roomy` — one round and all rounds stay below a roomy choice.
* `layout_of_roomy` — if there is a roomy choice, a layout is found.
* `crowded` — a body for which only a choice without that room exists.
-/

namespace ClassWeaver

/-! ## Sizes -/

/-- Whether an instruction is padded. -/
def Instruction.isSwitch {π : Type} : Instruction π → Bool
  | tableSwitch .. | lookupSwitch .. => true
  | _ => false

/-- A switch ends a multiple of four bytes behind the last multiple of four in front of it. -/
theorem Instruction.stop_of_isSwitch {π : Type} {i : Instruction π} (h : i.isSwitch = true) :
    ∃ words, ∀ offset long, offset + i.size offset long = 4 * (offset / 4) + 4 * words := by
  cases i with
  | tableSwitch d low high ts =>
    refine ⟨ts.length + 4, fun offset long => ?_⟩
    simp only [size, switchPadding]
    omega
  | lookupSwitch d ps =>
    refine ⟨2 * ps.length + 3, fun offset long => ?_⟩
    simp only [size, switchPadding]
    omega
  | _ => cases h

/-- Other instructions take as many bytes everywhere, and no fewer if they are long. -/
theorem Instruction.size_le_of_isSwitch_eq_false {π : Type} {i : Instruction π} (h : i.isSwitch = false) {a b : Bool}
    (hab : a ≤ b) (offset offset' : Nat) : i.size offset a ≤ i.size offset' b := by
  cases i with
  | jump op target =>
    cases a <;> cases b <;> first | exact absurd hab (by decide) | simp [size]
  | tableSwitch | lookupSwitch => cases h
  | _ => exact Nat.le_refl _

/-- What a long form takes more is an even number of bytes. -/
theorem Instruction.size_mod_two_of_isSwitch_eq_false {π : Type} {i : Instruction π} (h : i.isSwitch = false)
    (a b : Bool) (offset offset' : Nat) : i.size offset a % 2 = i.size offset' b % 2 := by
  cases i with
  | jump op target => cases a <;> cases b <;> simp [size]
  | tableSwitch | lookupSwitch => cases h
  | _ => rfl

namespace Layout

variable {is : List (Instruction Label)} {xs ys : List (Instruction Label × Bool)} {long wide next : List Bool}

/-! ## Wider choices -/

/-- The same instructions, and every long jump is long in the second choice too. -/
def Wider (xs ys : List (Instruction Label × Bool)) : Prop :=
  List.Forall₂ (fun x y => x.1 = y.1 ∧ x.2 ≤ y.2) xs ys

theorem wider_zip (h : List.Forall₂ (· ≤ ·) long wide) (is : List (Instruction Label)) :
    Wider (is.zip long) (is.zip wide) := by
  induction h generalizing is with
  | nil => rw [List.zip_nil_right]; exact .nil
  | cons hle _ ih =>
    cases is with
    | nil => exact .nil
    | cons i is => exact .cons ⟨rfl, hle⟩ (ih is)

theorem wider_real (h : Wider xs ys) : Wider (real xs) (real ys) := by
  induction h with
  | nil => exact .nil
  | @cons x y _ _ hxy _ ih =>
    cases hmark : x.1.mark? with
    | some label => rwa [real_cons_mark hmark, real_cons_mark (hxy.1 ▸ hmark)]
    | none =>
      rw [real_cons_real hmark, real_cons_real (hxy.1 ▸ hmark)]
      exact .cons hxy ih

theorem Wider.take (h : Wider xs ys) (n : Nat) : Wider (xs.take n) (ys.take n) :=
  List.forall₂_take n h

theorem Wider.drop (h : Wider xs ys) (n : Nat) : Wider (xs.drop n) (ys.drop n) :=
  List.forall₂_drop n h

/-- The end moves to the back by as many bytes as the start and perhaps more, as far as that is a multiple of four. -/
theorem Wider.endFrom_le (h : Wider xs ys) {offset offset' k : Nat} (hle : offset + 4 * k ≤ offset') :
    endFrom offset xs + 4 * k ≤ endFrom offset' ys := by
  induction h generalizing offset offset' with
  | nil => exact hle
  | @cons x y _ _ hxy _ ih =>
    obtain ⟨i, a⟩ := x
    obtain ⟨j, b⟩ := y
    obtain ⟨rfl, hab⟩ : i = j ∧ a ≤ b := hxy
    refine ih ?_
    cases hi : i.isSwitch with
    | true =>
      obtain ⟨words, hstop⟩ := Instruction.stop_of_isSwitch hi
      have ha := hstop offset a
      have hb := hstop offset' b
      omega
    | false =>
      have hsize := Instruction.size_le_of_isSwitch_eq_false hi hab offset offset'
      omega

/-- Without a switch that is so of every number of bytes. -/
theorem Wider.endFrom_le_of_isSwitch_eq_false (h : Wider xs ys) (hswitch : ∀ y ∈ ys, y.1.isSwitch = false)
    {offset offset' k : Nat} (hle : offset + k ≤ offset') : endFrom offset xs + k ≤ endFrom offset' ys := by
  induction h generalizing offset offset' with
  | nil => exact hle
  | @cons x y _ _ hxy _ ih =>
    obtain ⟨i, a⟩ := x
    obtain ⟨j, b⟩ := y
    obtain ⟨rfl, hab⟩ : i = j ∧ a ≤ b := hxy
    rw [List.forall_mem_cons] at hswitch
    have hi : i.isSwitch = false := hswitch.1
    have hsize := Instruction.size_le_of_isSwitch_eq_false hi hab offset offset'
    refine ih hswitch.2 ?_
    omega

/-- Instructions move by even numbers of bytes. -/
theorem Wider.even (h : Wider xs ys) {offset offset' : Nat} (heven : offset % 2 = offset' % 2) :
    endFrom offset xs % 2 = endFrom offset' ys % 2 := by
  induction h generalizing offset offset' with
  | nil => exact heven
  | @cons x y _ _ hxy _ ih =>
    obtain ⟨i, a⟩ := x
    obtain ⟨j, b⟩ := y
    obtain ⟨rfl, hab⟩ : i = j ∧ a ≤ b := hxy
    refine ih ?_
    cases hi : i.isSwitch with
    | true =>
      obtain ⟨words, hstop⟩ := Instruction.stop_of_isSwitch hi
      have ha := hstop offset a
      have hb := hstop offset' b
      omega
    | false =>
      have hsize := Instruction.size_mod_two_of_isSwitch_eq_false hi a b offset offset'
      omega

/-- **Two instructions** are at most two bytes further apart in the narrower choice. -/
theorem Wider.startOf_le (h : Wider xs ys) {m n : Nat} (hmn : m ≤ n) :
    startOf xs n + startOf ys m ≤ startOf ys n + startOf xs m + 2 := by
  have hsegment : Wider (((real xs).drop m).take (n - m)) (((real ys).drop m).take (n - m)) :=
    ((wider_real h).drop m).take (n - m)
  have hstart : startOf xs m + 4 * 0 ≤ startOf ys m := ((wider_real h).take m).endFrom_le (Nat.le_refl 0)
  have heven : startOf xs m % 2 = startOf ys m % 2 := ((wider_real h).take m).even rfl
  have hroom : startOf xs m + 4 * ((startOf ys m - startOf xs m) / 4) ≤ startOf ys m := by omega
  have hstop := hsegment.endFrom_le hroom
  rw [startOf_eq_endFrom xs hmn, startOf_eq_endFrom ys hmn]
  omega

/-- They are no further apart than in the wider choice if there is no switch between them. -/
theorem Wider.startOf_le_of_isSwitch_eq_false (h : Wider xs ys) {m n : Nat} (hmn : m ≤ n)
    (hswitch : ∀ y ∈ ((real ys).drop m).take (n - m), y.1.isSwitch = false) :
    startOf xs n + startOf ys m ≤ startOf ys n + startOf xs m := by
  have hsegment : Wider (((real xs).drop m).take (n - m)) (((real ys).drop m).take (n - m)) :=
    ((wider_real h).drop m).take (n - m)
  have hstart : startOf xs m + 4 * 0 ≤ startOf ys m := ((wider_real h).take m).endFrom_le (Nat.le_refl 0)
  have hroom : startOf xs m + (startOf ys m - startOf xs m) ≤ startOf ys m := by omega
  have hstop := hsegment.endFrom_le_of_isSwitch_eq_false hswitch hroom
  rw [startOf_eq_endFrom xs hmn, startOf_eq_endFrom ys hmn]
  omega

/-! ## Choices in which short jumps reach -/

/-- A choice of long jumps, all of which have long forms, in which every short jump reaches its target. -/
structure Fits (is : List (Instruction Label)) (long : List Bool) : Prop where
  length : long.length = is.length
  widenable : ∀ x ∈ is.zip long, x.2 = true → x.1.isWidenable = true
  reaches : ∀ s ∈ (of is long).steps, s.long = false → ∀ op target, s.instruction = .jump op target →
    ∀ offset, (of is long).offsetOf target = .ok offset → fitsInWord ((offset : Int) - s.offset) = true

/-- A switch is written between two offsets. -/
def SwitchBetween (l : Layout) (low high : Nat) : Prop :=
  ∃ s ∈ l.steps, s.instruction.isSwitch = true ∧ low ≤ s.offset ∧ s.offset < high

/-- A choice in which short jumps reach, and two bytes further if they go past a switch, and which takes no more bytes
than offsets can tell apart. -/
structure Roomy (is : List (Instruction Label)) (long : List Bool) : Prop extends Fits is long where
  small : (of is long).span < 4294967296
  spare : ∀ s ∈ (of is long).steps, s.long = false → ∀ op target, s.instruction = .jump op target →
    ∀ offset, (of is long).offsetOf target = .ok offset →
      (of is long).SwitchBetween (min s.offset offset) (max s.offset offset) →
        -32766 ≤ (offset : Int) - s.offset ∧ (offset : Int) - s.offset ≤ 32765

/-- An instruction between two others is written between them. -/
theorem switchBetween_of_mem {m n : Nat} {y : Instruction Label × Bool} (hy : y ∈ ((real ys).drop m).take (n - m))
    (hswitch : y.1.isSwitch = true) {l : Layout} (hl : l.steps = placed 0 ys) :
    l.SwitchBetween (startOf ys m) (startOf ys n) := by
  obtain ⟨i, hi, hget⟩ := List.getElem_of_mem hy
  rw [List.length_take, List.length_drop] at hi
  rw [List.getElem_take, List.getElem_drop] at hget
  have hlt : m + i < (real ys).length := by omega
  have hstep := getElem?_realSteps ys (m + i)
  rw [List.getElem?_eq_getElem hlt, hget] at hstep
  refine ⟨⟨startOf ys (m + i), y.2, y.1⟩, hl ▸ (mem_realSteps.mp (List.mem_of_getElem? hstep)).1, hswitch,
    Layout.startOf_le ys (Nat.le_add_right m i), startOf_lt (by omega) hlt⟩

/-- What is within a limit in the wider choice, with two bytes to spare past a switch, is so in the narrower one. -/
theorem Wider.startOf_le_add (h : Wider xs ys) {l : Layout} (hl : l.steps = placed 0 ys) {m n limit : Nat}
    (hmn : m ≤ n) (hlimit : startOf ys n ≤ startOf ys m + limit)
    (hspare : l.SwitchBetween (startOf ys m) (startOf ys n) → startOf ys n + 2 ≤ startOf ys m + limit) :
    startOf xs n ≤ startOf xs m + limit := by
  by_cases hswitch : ∀ y ∈ ((real ys).drop m).take (n - m), y.1.isSwitch = false
  · have := h.startOf_le_of_isSwitch_eq_false hmn hswitch
    omega
  · simp only [not_forall, Bool.not_eq_false] at hswitch
    obtain ⟨y, hmem, hswitch⟩ := hswitch
    have := hspare (switchBetween_of_mem hmem hswitch hl)
    have := h.startOf_le hmn
    omega

/-- **A jump that reaches in a roomy choice** reaches in every narrower one. -/
theorem Wider.reaches (h : Wider xs ys) {l : Layout} (hl : l.steps = placed 0 ys) {m n : Nat}
    (hfits : fitsInWord ((startOf ys n : Int) - startOf ys m) = true)
    (hspare : l.SwitchBetween (min (startOf ys m) (startOf ys n)) (max (startOf ys m) (startOf ys n)) →
        -32766 ≤ (startOf ys n : Int) - startOf ys m ∧ (startOf ys n : Int) - startOf ys m ≤ 32765) :
    fitsInWord ((startOf xs n : Int) - startOf xs m) = true := by
  simp only [fitsInWord, Bool.and_eq_true, decide_eq_true_eq] at hfits ⊢
  -- the distance has its sign from the numbers of the two ends, which are the same in both choices
  rcases Nat.le_total m n with hmn | hnm
  · have hx := Layout.startOf_le xs hmn
    have hy := Layout.startOf_le ys hmn
    rw [Nat.min_eq_left hy, Nat.max_eq_right hy] at hspare
    have hforward : startOf xs n ≤ startOf xs m + 32767 :=
      h.startOf_le_add hl hmn (by omega) fun hswitch => by have := hspare hswitch; omega
    omega
  · have hx := Layout.startOf_le xs hnm
    have hy := Layout.startOf_le ys hnm
    rw [Nat.min_eq_right hy, Nat.max_eq_left hy] at hspare
    have hbackward : startOf xs m ≤ startOf xs n + 32768 :=
      h.startOf_le_add hl hnm (by omega) fun hswitch => by have := hspare hswitch; omega
    omega

/-! ## One round -/

/-- The steps of two choices, side by side. -/
theorem forall₂_placed (h : Wider xs ys) :
    List.Forall₂ (fun s t => s.instruction = t.instruction ∧ s.long ≤ t.long ∧ t ∈ placed 0 ys ∧
      ∃ n, s.offset = startOf xs n ∧ t.offset = startOf ys n) (placed 0 xs) (placed 0 ys) := by
  have hlength : (placed 0 xs).length = (placed 0 ys).length := by
    rw [length_placed, length_placed, h.length_eq]
  refine List.forall₂_iff_get.mpr ⟨hlength, fun i hi hi' => ?_⟩
  have hs := List.getElem?_eq_getElem hi
  have ht := List.getElem?_eq_getElem hi'
  have hoffset := offset_of_getElem?_placed hs
  have hoffset' := offset_of_getElem?_placed ht
  rw [← (wider_real (h.take i)).length_eq] at hoffset'
  rw [getElem?_placed, List.getElem?_eq_getElem (length_placed 0 xs ▸ hi), Option.map_some] at hs
  rw [getElem?_placed, List.getElem?_eq_getElem (length_placed 0 ys ▸ hi'), Option.map_some] at ht
  obtain ⟨hinstruction, hlong⟩ := h.get (length_placed 0 xs ▸ hi) (length_placed 0 ys ▸ hi')
  refine ⟨?_, ?_, List.get_mem _ _, _, hoffset, hoffset'⟩
  · rw [List.get_eq_getElem, List.get_eq_getElem, ← Option.some.inj hs, ← Option.some.inj ht]
    exact hinstruction
  · rw [List.get_eq_getElem, List.get_eq_getElem, ← Option.some.inj hs, ← Option.some.inj ht]
    exact hlong

/-- A list can be mapped over if each of its items can, side by side with another list. -/
theorem exists_mapM_of_forall₂ {α β γ ε : Type} {f : α → Except ε γ} {holds : γ → β → Prop} {as : List α} {bs : List β}
    (h : List.Forall₂ (fun a b => ∃ c, f a = .ok c ∧ holds c b) as bs) :
    ∃ cs, as.mapM f = .ok cs ∧ List.Forall₂ holds cs bs := by
  induction h with
  | nil => exact ⟨[], rfl, .nil⟩
  | cons ha _ ih =>
    obtain ⟨c, hc, hholds⟩ := ha
    obtain ⟨cs, hcs, hrest⟩ := ih
    refine ⟨c :: cs, ?_, .cons hholds hrest⟩
    rw [List.mapM_cons, hc, hcs]
    rfl

/-- A narrower choice takes no more bytes. -/
theorem Roomy.endFrom_lt (h : Roomy is wide) (hle : List.Forall₂ (· ≤ ·) long wide) :
    endFrom 0 (is.zip long) < 4294967296 := by
  have hsmall := h.small
  rw [of_eq, span_laid] at hsmall
  exact Nat.lt_of_le_of_lt ((wider_zip hle is).endFrom_le (k := 0) (Nat.le_refl 0)) hsmall

/-- Its steps are at the offsets that they have without a limit. -/
theorem Roomy.steps_of (h : Roomy is wide) (hle : List.Forall₂ (· ≤ ·) long wide) :
    (of is long).steps = placed 0 (is.zip long) := by
  rw [of_eq, steps_laid (h.endFrom_lt hle)]

/-- A choice is not narrower than itself. -/
theorem forall₂_le_refl (long : List Bool) : List.Forall₂ (· ≤ ·) long long :=
  List.forall₂_same.mpr fun b _ => Bool.le_refl b

/-- A label that is placed is found where it would be without a limit. -/
theorem Roomy.offsetOf_of (h : Roomy is wide) (hle : List.Forall₂ (· ≤ ·) long wide) {label : Label} {n : Nat}
    (hn : positionFrom? label 0 is = some n) : (of is long).offsetOf label = .ok (startOf (is.zip long) n) := by
  have hlen : long.length = is.length := hle.length_eq.trans h.length
  rw [of_eq, offsetOf_laid_of_lt (h.endFrom_lt hle), List.map_fst_zip (Nat.le_of_eq hlen.symm), hn]

/-- A jump that is short in a roomy choice reaches in a narrower one, and a long one may become long. -/
theorem needsLong_of_roomy (hroomy : Roomy is wide) (hplaced : ∀ op target, .jump op target ∈ is → .mark target ∈ is)
    (hle : List.Forall₂ (· ≤ ·) long wide) {n : Nat} {a b : Bool} {i : Instruction Label} (hab : a ≤ b)
    (hmem : ⟨startOf (is.zip wide) n, b, i⟩ ∈ (of is wide).steps) :
    ∃ v, (of is long).needsLong ⟨startOf (is.zip long) n, a, i⟩ = .ok v ∧ v ≤ b := by
  have hpair : (i, b) ∈ is.zip wide := mem_of_mem_steps hmem
  cases a with
  | true => exact ⟨true, rfl, hab⟩
  | false =>
    cases i with
    | jump op target =>
      obtain ⟨k, hk⟩ := exists_positionFrom? (hplaced op target (List.of_mem_zip hpair).1) 0
      have hoffset := hroomy.offsetOf_of hle hk
      have hoffset' := hroomy.offsetOf_of (forall₂_le_refl wide) hk
      rw [needsLong, if_neg Bool.false_ne_true]
      dsimp only
      rw [hoffset]
      dsimp only
      cases b with
      | false =>
        -- the spare room is what the padding of switches can cost
        have hfits := hroomy.reaches _ hmem rfl op target rfl _ hoffset'
        have hspare := hroomy.spare _ hmem rfl op target rfl _ hoffset'
        have hsteps := hroomy.steps_of (forall₂_le_refl wide)
        rw [if_pos ((wider_zip hle is).reaches hsteps hfits hspare)]
        exact ⟨false, rfl, Bool.le_refl false⟩
      | true =>
        have hwidenable : Opcode.isWidenable op = true := hroomy.widenable _ hpair rfl
        rw [if_pos hwidenable]
        split
        · exact ⟨false, rfl, Bool.false_le true⟩
        · exact ⟨true, rfl, Bool.le_refl true⟩
    | _ => exact ⟨false, rfl, Bool.false_le b⟩

/-- **One round** over a choice that is narrower than a roomy one succeeds, and its result is narrower too. -/
theorem lengthen_of_roomy (hroomy : Roomy is wide) (hplaced : ∀ op target, .jump op target ∈ is → .mark target ∈ is)
    (hle : List.Forall₂ (· ≤ ·) long wide) :
    ∃ next, (of is long).lengthen = .ok next ∧ List.Forall₂ (· ≤ ·) next wide := by
  have hsteps : List.Forall₂ (fun s t => ∃ v, (of is long).needsLong s = .ok v ∧ v ≤ t.long)
      (of is long).steps (of is wide).steps := by
    have hwide := hroomy.steps_of (forall₂_le_refl wide)
    rw [hroomy.steps_of hle, hwide]
    refine (forall₂_placed (wider_zip hle is)).imp ?_
    rintro ⟨_, a, i⟩ ⟨_, b, _⟩ ⟨rfl, hab, hmem, n, rfl, rfl⟩
    exact needsLong_of_roomy hroomy hplaced hle hab (hwide ▸ hmem)
  obtain ⟨next, hnext, hbelow⟩ := exists_mapM_of_forall₂ hsteps
  have hnarrow := List.forall₂_map_right_iff.mpr hbelow
  rw [map_long_of hroomy.length] at hnarrow
  exact ⟨next, hnext, hnarrow⟩

/-- A round keeps long jumps long. -/
theorem le_of_lengthen (hlen : long.length = is.length) (h : (of is long).lengthen = .ok next) :
    List.Forall₂ (· ≤ ·) long next := by
  obtain ⟨hneeds, rfl⟩ := ((totals_getD (of is long).needsLong false).mapM_eq_ok).mp h
  have hsteps : List.Forall₂ (· ≤ ·) ((of is long).steps.map PlacedInstruction.long)
      ((of is long).steps.map fun s => ((of is long).needsLong s).toOption.getD false) := by
    rw [List.forall₂_map_left_iff, List.forall₂_map_right_iff, List.forall₂_same]
    intro s _
    cases hs : s.long with
    | false => exact Bool.false_le _
    | true =>
      rw [needsLong, if_pos hs]
      exact Bool.le_refl true
  rwa [map_long_of hlen] at hsteps

/-! ## All rounds -/

/-- A choice that is wider than another has more long jumps, unless they are the same. -/
theorem eq_or_count_lt (h : List.Forall₂ (· ≤ ·) long wide) : long = wide ∨ long.count true < wide.count true := by
  induction h with
  | nil => exact .inl rfl
  | @cons a b _ _ hab _ ih =>
    rw [List.count_cons, List.count_cons]
    rcases ih with rfl | hlt
    · cases a <;> cases b <;> first | exact .inl rfl | exact absurd hab (by decide) | exact .inr (Nat.lt_succ_self _)
    · right
      cases a <;> cases b <;> first | exact absurd hab (by decide) | (simp; omega)

theorem count_le_countP (hwide : ∀ x ∈ is.zip long, x.2 = true → x.1.isWidenable = true)
    (hlen : long.length = is.length) : long.count true ≤ is.countP Instruction.isWidenable := by
  have hlong : long.count true = (is.zip long).countP fun x => x.2 == true := by
    have := List.countP_map (p := fun b => b == true) (f := Prod.snd) (l := is.zip long)
    rwa [List.map_snd_zip (Nat.le_of_eq hlen)] at this
  have hinstructions : is.countP Instruction.isWidenable = (is.zip long).countP fun x => x.1.isWidenable := by
    have := List.countP_map (p := Instruction.isWidenable) (f := Prod.fst) (l := is.zip long)
    rwa [List.map_fst_zip (Nat.le_of_eq hlen.symm)] at this
  rw [hlong, hinstructions]
  exact List.countP_mono_left fun x hx hlong => hwide x hx (eq_of_beq hlong)

/-- **The rounds are enough**: each but the last makes one more of the jumps long that have a long form. -/
theorem rounds_ne_none {fuel : Nat} (hlen : long.length = is.length)
    (hwide : ∀ x ∈ is.zip long, x.2 = true → x.1.isWidenable = true)
    (hfuel : is.countP Instruction.isWidenable < fuel + long.count true) : rounds is fuel long ≠ none := by
  induction fuel generalizing long with
  | zero =>
    have := count_le_countP hwide hlen
    omega
  | succ fuel ih =>
    rw [rounds]
    cases hnext : (of is long).lengthen with
    | error e => exact Option.some_ne_none _
    | ok next =>
      dsimp only
      split
      · exact Option.some_ne_none _
      · rename_i hchanged
        have hsteps : (of is long).steps.map (fun s => (s.instruction, s.long)) = is.zip long := by
          rw [of_eq, map_steps_laid]
        obtain ⟨hlen', hwide', -⟩ := lengthen_eq_ok hlen hsteps hwide hnext
        have hmore := (eq_or_count_lt (le_of_lengthen hlen hnext)).resolve_left fun h => hchanged h.symm
        exact ih hlen' hwide' (by omega)

/-- **The rounds** that start with a choice narrower than a roomy one end with such a choice. -/
theorem rounds_of_roomy (hroomy : Roomy is wide) (hplaced : ∀ op target, .jump op target ∈ is → .mark target ∈ is)
    {fuel : Nat} (hfuel : wide.count true < fuel + long.count true) (hle : List.Forall₂ (· ≤ ·) long wide) :
    ∃ l, rounds is fuel long = some (.ok l) ∧ List.Forall₂ (· ≤ ·) (l.steps.map PlacedInstruction.long) wide := by
  -- induction on the rounds; each but the last makes one more of the jumps long that are long in the roomy choice
  induction fuel generalizing long with
  | zero =>
    rcases eq_or_count_lt hle with rfl | hlt <;> omega
  | succ fuel ih =>
    obtain ⟨next, hnext, hle'⟩ := lengthen_of_roomy hroomy hplaced hle
    have hlen : long.length = is.length := hle.length_eq.trans hroomy.length
    rw [rounds, hnext]
    dsimp only
    by_cases hsame : next = long
    · rw [if_pos hsame]
      refine ⟨of is long, rfl, ?_⟩
      rwa [map_long_of hlen]
    · rw [if_neg hsame]
      have hmore := (eq_or_count_lt (le_of_lengthen hlen hnext)).resolve_left fun h => hsame h.symm
      exact ih (by omega) hle'

end Layout

/-- **A layout is found** if some choice of long jumps is roomy, and no jump is long in it that is short there. -/
theorem MethodBody.layout_of_roomy {b : MethodBody} {wide : List Bool} (hroomy : Layout.Roomy b.instructions wide)
    (hplaced : ∀ op target, .jump op target ∈ b.instructions → .mark target ∈ b.instructions) :
    ∃ l, b.layout = .ok l ∧ List.Forall₂ (· ≤ ·) (l.steps.map PlacedInstruction.long) wide := by
  have hshort : List.Forall₂ (· ≤ ·) (b.instructions.map fun _ => false) wide :=
    List.forall₂_map_left_iff.mpr (List.forall₂_iff_zip.mpr ⟨hroomy.length.symm, fun _ => Bool.false_le _⟩)
  have hfew := Layout.count_le_countP hroomy.widenable hroomy.length
  have hfuel : wide.count true < b.instructions.countP Instruction.isWidenable + 1 +
      (b.instructions.map fun _ => false).count true := by omega
  obtain ⟨l, hl, hle⟩ := Layout.rounds_of_roomy hroomy hplaced hfuel hshort
  exact ⟨l, by rw [layout, hl, Option.getD_some], hle⟩

namespace MethodBody

/-! ## A body that is too crowded -/

/-- A `goto` that reaches, and a conditional jump past a switch with the given number of targets. -/
def crowded (n : Nat) : MethodBody :=
  { empty 0 0 with
    instructions := [.jump Opcode.goto ⟨0⟩, .mark ⟨0⟩, .jump 0x99 ⟨1⟩, .simple 0, .simple 0, .simple 0,
      .tableSwitch ⟨1⟩ 0 (Int32.ofNat (n - 1)) (List.replicate n ⟨1⟩), .mark ⟨1⟩, .simple Opcode.voidReturn]
    nextLabel := 2 }

/-- The choices for `crowded`: nothing but the `goto` can be long. -/
def crowdedChoice (long : Bool) : List Bool :=
  long :: List.replicate 8 false

/-- The switch ends at the same offset for both choices. -/
theorem offsetOf_crowded {n : Nat} (h : 24 + 4 * n < 4294967296) (long : Bool) :
    (Layout.of (crowded n).instructions (crowdedChoice long)).offsetOf ⟨1⟩ = .ok (24 + 4 * n) := by
  have hposition : Layout.positionFrom? ⟨1⟩ 0 (crowded n).instructions = some 6 := rfl
  have hlen : (crowdedChoice long).length = (crowded n).instructions.length := rfl
  rw [Layout.offsetOf_of hlen, hposition]
  dsimp only
  have hstart : Layout.startOf ((crowded n).instructions.zip (crowdedChoice long)) 6 = 24 + 4 * n := by
    cases long <;>
      simp [crowded, crowdedChoice, Layout.startOf, Layout.real, Layout.endFrom, Instruction.mark?, Instruction.size,
        switchPadding] <;>
      omega
  rw [hstart, Layout.wrap_of_lt h]

/-- With the `goto` long, the conditional jump is the only short one. -/
theorem short_jump_crowded {n : Nat} {s : PlacedInstruction}
    (hs : s ∈ (Layout.of (crowded n).instructions (crowdedChoice true)).steps) (hshort : s.long = false) {op : UInt8}
    {target : Label} (hjump : s.instruction = .jump op target) : s.offset = 5 ∧ target = ⟨1⟩ := by
  rw [Layout.of_eq] at hs
  simp only [crowded, crowdedChoice, List.replicate, List.zip_cons_cons, List.zip_nil_left, Layout.laid, Layout.placed,
    List.map_cons, List.map_nil, List.mem_cons, List.not_mem_nil, or_false] at hs
  rcases hs with rfl | rfl | rfl | rfl | rfl | rfl | rfl | rfl | rfl
  · cases hshort
  · cases hjump
  · cases hjump
    exact ⟨rfl, rfl⟩
  all_goals cases hjump

theorem mark_mem_crowded (n : Nat) (op : UInt8) (target : Label) (h : .jump op target ∈ (crowded n).instructions) :
    .mark target ∈ (crowded n).instructions := by
  simp only [crowded, List.mem_cons, reduceCtorEq, Instruction.jump.injEq, List.not_mem_nil, or_false, false_or] at h ⊢
  rcases h with ⟨-, rfl⟩ | ⟨-, rfl⟩
  · exact .inl rfl
  · exact .inr rfl

/-- With the `goto` short, the conditional jump is two bytes further from its target than with it long. -/
theorem layout_crowded {n : Nat} (h : 32767 < 21 + 4 * n) (hsmall : 24 + 4 * n < 4294967296) :
    (crowded n).layout = .error (.branchOverflow (21 + 4 * n)) := by
  have hsteps : ∃ rest, (Layout.of (crowded n).instructions (crowdedChoice false)).steps =
      ⟨0, false, .jump Opcode.goto ⟨0⟩⟩ :: ⟨3, false, .mark ⟨0⟩⟩ :: ⟨3, false, .jump 0x99 ⟨1⟩⟩ :: rest := ⟨_, rfl⟩
  obtain ⟨rest, hrest⟩ := hsteps
  have hgoto : (Layout.of (crowded n).instructions (crowdedChoice false)).offsetOf ⟨0⟩ = .ok 3 :=
    Layout.offsetOf_of rfl ⟨0⟩
  have hdistance : ((24 + 4 * n : Nat) : Int) - (3 : Nat) = 21 + 4 * n := by omega
  have hfar : fitsInWord (21 + 4 * n) = false := by
    simp [fitsInWord]
    omega
  have hlengthen : (Layout.of (crowded n).instructions (crowdedChoice false)).lengthen =
      .error (.branchOverflow (21 + 4 * n)) := by
    rw [Layout.lengthen, hrest, List.mapM_cons, List.mapM_cons, List.mapM_cons]
    simp only [Layout.needsLong, hgoto, offsetOf_crowded hsmall, hdistance, hfar]
    rfl
  show (Layout.rounds (crowded n).instructions 2 (crowdedChoice false)).getD _ = _
  rw [Layout.rounds, hlengthen]
  rfl

theorem fits_crowded {n : Nat} (h : 19 + 4 * n ≤ 32767) :
    Layout.Fits (crowded n).instructions (crowdedChoice true) where
  length := rfl
  widenable := by simp [crowded, crowdedChoice, Instruction.isWidenable, Opcode.isWidenable]
  reaches s hs hshort op target hjump offset hoffset := by
    obtain ⟨hstart, rfl⟩ := short_jump_crowded hs hshort hjump
    rw [offsetOf_crowded (by omega)] at hoffset
    cases hoffset
    simp only [hstart, fitsInWord, Bool.and_eq_true, decide_eq_true_eq]
    omega

theorem span_crowded (n : Nat) :
    (Layout.of (crowded n).instructions (crowdedChoice true)).span = 25 + 4 * n := by
  rw [Layout.of_eq, Layout.span_laid]
  simp [crowded, crowdedChoice, Layout.endFrom, Instruction.size, switchPadding]
  omega

theorem roomy_crowded {n : Nat} (h : 19 + 4 * n ≤ 32765) :
    Layout.Roomy (crowded n).instructions (crowdedChoice true) where
  toFits := fits_crowded (by omega)
  small := by
    rw [span_crowded]
    omega
  spare s hs hshort op target hjump offset hoffset _ := by
    obtain ⟨hstart, rfl⟩ := short_jump_crowded hs hshort hjump
    rw [offsetOf_crowded (by omega)] at hoffset
    cases hoffset
    rw [hstart]
    omega

/-- With 8187 targets there is a choice in which every jump reaches, but the one that does without long jumps does
not reach, and nothing in it can be lengthened. -/
theorem crowded_overflows :
    (∀ op target, .jump op target ∈ (crowded 8187).instructions → .mark target ∈ (crowded 8187).instructions) ∧
      Layout.Fits (crowded 8187).instructions (crowdedChoice true) ∧
      (crowded 8187).layout = .error (.branchOverflow 32769) :=
  ⟨mark_mem_crowded 8187, fits_crowded (by decide), layout_crowded (by decide) (by decide)⟩

/-- With one target less there is room for the padding. -/
theorem layout_crowded_of_roomy :
    Layout.Roomy (crowded 8186).instructions (crowdedChoice true) ∧
      (∀ op target, .jump op target ∈ (crowded 8186).instructions → .mark target ∈ (crowded 8186).instructions) ∧
      ∃ l, (crowded 8186).layout = .ok l ∧
        List.Forall₂ (· ≤ ·) (l.steps.map PlacedInstruction.long) (crowdedChoice true) :=
  ⟨roomy_crowded (by decide), mark_mem_crowded 8186,
    layout_of_roomy (roomy_crowded (by decide)) (mark_mem_crowded 8186)⟩

end MethodBody

end ClassWeaver
