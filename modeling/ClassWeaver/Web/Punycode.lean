/-!
# Punycode

The spelling of characters outside ASCII in the labels of domain names. The ASCII characters of a label come first,
behind them and a dash come numbers that say where which other character is put in. A number's digits are letters
and decimal digits, the least one first, and how far it reaches is known from its digits and from the numbers in
front of it.

## Contents

* `digit?`, `threshold`, `delta?` — one number.
* `adapt` — what a number says about the next.
* `decode?` — the characters of a label.
-/

namespace ClassWeaver.Web.Punycode

/-- The value of a digit in base 36: letters come before decimal digits. -/
def digit? (c : Char) : Option Nat :=
  if 'a' ≤ c && c ≤ 'z' then some (c.toNat - 97)
  else if c.isDigit then some (c.toNat - 48 + 26)
  else none

/-- The digits below this one end a number at the position `k`. -/
def threshold (k bias : Nat) : Nat :=
  if k ≤ bias then 1 else if bias + 26 ≤ k then 26 else k - bias

/-- Sums and weights of digits are below this number. -/
def limit : Nat :=
  0x100000000

/-- Adds the number at the front of a text to `sum`; `weight` is the weight of its next digit. -/
def delta? (bias sum weight k : Nat) : List Char → Option (Nat × List Char)
  | [] => none
  | c :: rest => do
    let d ← digit? c
    let t := threshold k bias
    let sum := sum + d * weight
    if limit ≤ sum then none
    else if d < t then return (sum, rest)
    else if limit ≤ weight * (36 - t) then none
    else delta? bias sum (weight * (36 - t)) (k + 36) rest

/-- How often a number has to be divided to be small, times 36, and a remainder of the same scale. -/
def scaleDown (k delta : Nat) : Nat :=
  if 455 < delta then scaleDown (k + 36) (delta / 35) else k + 36 * delta / (delta + 38)
  termination_by delta

/-- The bias for the number behind one that was `delta`, when the label has `size` characters. -/
def adapt (delta size : Nat) (first : Bool) : Nat :=
  let delta := if first then delta / 700 else delta / 2
  scaleDown 0 (delta + delta / size)

/-- Puts the characters that a text spells into a label, from the character `n` and the place `i` on. -/
def insertAll? (n i bias : Nat) (label : List Char) : (fuel : Nat) → List Char → Option (List Char)
  | _, [] => some label
  | 0, _ => none
  | fuel + 1, cs => do
    let (j, rest) ← delta? bias i 1 36 cs
    let size := label.length + 1
    let n := n + j / size
    if n < 0xD800 ∨ (0xDFFF < n ∧ n < 0x110000) then
      insertAll? n (j % size + 1) (adapt (j - i) size (i == 0)) (label.insertIdx (j % size) (Char.ofNat n)) fuel rest
    else none

/-- The length of the longest text that is read. -/
def maxLength : Nat :=
  2000

/-- The characters of a label. One that consists of ASCII characters has no need of this spelling, so there are
numbers, and the dash in front of them is not the first character. -/
def decode? (cs : List Char) : Option (List Char) :=
  let numbers := (cs.reverse.takeWhile (· != '-')).reverse
  let dash := cs.length - numbers.length
  if numbers.isEmpty || dash == 1 || maxLength < cs.length then none
  else insertAll? 128 0 72 (cs.take (dash - 1)) numbers.length numbers

end ClassWeaver.Web.Punycode
