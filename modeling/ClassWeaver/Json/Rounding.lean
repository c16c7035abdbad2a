import ClassWeaver.Json.Decimal

/-!
# Numbers that are read

What a number of a document is read as, if it is no 64-bit integer: its digits, as far as they fit into 64 bits, are rounded
to a double, and that one is multiplied or divided by a power of ten, with a rounding of its own. It is kept as the decimal
with the fewest digits that is nearest to that double.

## Contents

* `Dyadic.nearest?` — the double nearest to a fraction: ties go to the even significand.
* `Dyadic.timesTenTo?` — a double scaled by a power of ten, one rounding for each step.
* `Dyadic.shortest` — the shortest decimal that reads back.
* `Decimal.ofParts?` — the number of a significand and an exponent.
-/

namespace ClassWeaver

/-- The positive number `significand · 2 ^ exponent`. -/
structure Dyadic where
  significand : Nat
  exponent : Int
  deriving DecidableEq, Repr

namespace Dyadic

/-- The smallest exponent of a double. -/
def minExponent : Int :=
  -1074

/-- The fraction `num / den` over the unit `2 ^ e`. -/
def scale (num den : Nat) (e : Int) : Nat × Nat :=
  if 0 ≤ e then (num, den * Nat.pow 2 e.toNat) else (num * Nat.pow 2 (-e).toNat, den)

/-- A quotient rounded to the nearest integer; a tie goes to the even one. -/
def roundDiv (num den : Nat) : Nat :=
  let q := num / den
  let twice := 2 * (num % den)
  if den < twice || (twice == den && q % 2 == 1) then q + 1 else q

/-- The double nearest to the fraction `num / den`, unless the fraction is too large. -/
def nearest? (num den : Nat) : Option Dyadic :=
  if num = 0 then some ⟨0, minExponent⟩
  else
    let guess := (num.log2 : Int) - den.log2 - 53
    let (n, d) := scale num den guess
    let e := max minExponent (if Nat.pow 2 53 * d ≤ n then guess + 1 else guess)
    let (n, d) := scale num den e
    let m := roundDiv n d
    if Nat.pow 2 53 ≤ m then (if e + 1 > 971 then none else some ⟨Nat.pow 2 52, e + 1⟩)
    else if e > 971 then none
    else some ⟨m, e⟩

/-! ## Powers of ten -/

/-- The double nearest to a fraction over a power of two. -/
def nearestScaled? (num den : Nat) (e : Int) : Option Dyadic :=
  if 0 ≤ e then nearest? (num * Nat.pow 2 e.toNat) den else nearest? num (den * Nat.pow 2 (-e).toNat)

/-- The rounded product, unless it is too large. -/
def mul? (x y : Dyadic) : Option Dyadic :=
  nearestScaled? (x.significand * y.significand) 1 (x.exponent + y.exponent)

/-- The rounded quotient, unless it is too large. -/
def div? (x y : Dyadic) : Option Dyadic :=
  nearestScaled? x.significand y.significand (x.exponent - y.exponent)

/-- The double nearest to a power of ten. -/
def tenTo? (n : Nat) : Option Dyadic :=
  nearest? (Nat.pow 10 n) 1

/-- The exponent of the greatest power of ten that is a double. -/
def maxTenExponent : Nat :=
  308

/-- A double times a power of ten. A small power is taken in several steps, with a rounding after each; a number that
is too large has no double. -/
def timesTenTo? (x : Dyadic) (exponent : Int) : Option Dyadic :=
  if exponent.natAbs ≤ maxTenExponent then do
    let power ← tenTo? exponent.natAbs
    if 0 ≤ exponent then x.mul? power else x.div? power
  else if x.significand = 0 then some x
  else if 0 ≤ exponent then none
  else do
    let y ← x.div? (← tenTo? maxTenExponent)
    y.timesTenTo? (exponent + maxTenExponent)
  termination_by exponent.natAbs
  decreasing_by simp only [maxTenExponent] at *; omega

/-! ## The shortest decimal -/

/-- The power of ten that is not greater than the fraction `num / den`, but whose tenfold is. -/
def floorLog10 (num den : Nat) : Int :=
  let d := ((Nat.toDigits 10 num).length : Int) - (Nat.toDigits 10 den).length
  let atLeast := if 0 ≤ d then den * Nat.pow 10 d.toNat ≤ num else den ≤ num * Nat.pow 10 (-d).toNat
  if atLeast then d else d - 1

/-- Whether `c · 10 ^ k` reads back as the double. The ends of the interval belong to even significands. -/
def readsBack (x : Dyadic) (c : Nat) (k : Int) : Bool :=
  let below := if x.significand = Nat.pow 2 52 ∧ minExponent < x.exponent then 1 else 2
  let low := 4 * x.significand - below
  let high := 4 * x.significand + 2
  let (cn, cd) := if 0 ≤ k then (c * Nat.pow 10 k.toNat, 1) else (c, Nat.pow 10 (-k).toNat)
  let (n, d) := scale cn cd (x.exponent - 2)
  if x.significand % 2 = 0 then low * d ≤ n && n ≤ high * d else low * d < n && n < high * d

/-- The decimal with `count` digits, or with the next few more, that reads back as the double `num / den`. The nearer
one of two is taken, and the even one if neither is nearer. -/
def shortestFrom (x : Dyadic) (num den : Nat) (log : Int) (count : Nat) : (fuel : Nat) → Nat × Int
  | 0 => (0, 0)
  | fuel + 1 =>
    let k := log - count + 1
    let (n, d) := if 0 ≤ k then (num, den * Nat.pow 10 k.toNat) else (num * Nat.pow 10 (-k).toNat, den)
    let c := n / d
    let nearerUp := d < 2 * (n % d) || (d == 2 * (n % d) && c % 2 == 1)
    let first := if nearerUp then c + 1 else c
    let second := if nearerUp then c else c + 1
    if x.readsBack first k then (first, k)
    else if x.readsBack second k then (second, k)
    else shortestFrom x num den log (count + 1) fuel

/-- The decimal with the fewest digits that reads back as the double; seventeen are enough. -/
def shortest (x : Dyadic) : Nat × Int :=
  let (num, den) := if 0 ≤ x.exponent then (x.significand * Nat.pow 2 x.exponent.toNat, 1)
    else (x.significand, Nat.pow 2 (-x.exponent).toNat)
  shortestFrom x num den (floorLog10 num den) 1 17

end Dyadic

namespace Decimal

/-- Moves trailing zeros of the digits into the exponent. -/
def strip (fuel digits : Nat) (exponent : Int) : Nat × Int :=
  match fuel with
  | 0 => (digits, exponent)
  | fuel + 1 =>
    if digits ≠ 0 ∧ digits % 10 = 0 then strip fuel (digits / 10) (exponent + 1) else (digits, exponent)

/-- The decimal that stands for a double. -/
def ofDyadic (negative : Bool) (x : Dyadic) : Decimal :=
  if x.significand = 0 then ⟨negative, 0, 0⟩
  else
    let (c, k) := x.shortest
    let (c, k) := strip 20 c k
    ⟨negative, c, k⟩

/-- The decimal that stands for the double of a significand times a power of ten, unless that is too large. -/
def ofParts? (negative : Bool) (significand : Nat) (exponent : Int) : Option Decimal := do
  let x ← Dyadic.nearest? significand 1
  return ofDyadic negative (← x.timesTenTo? exponent)

end Decimal

end ClassWeaver
