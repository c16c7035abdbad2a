/-!
# Decimal numbers of documents

A number of a document that is no 64-bit integer. It stands for a double, and it is kept as a decimal with the fewest digits
that tell this double from all others; which decimals there are is up to those who read documents.

## Contents

* `Decimal` — sign, digits and a power of ten.
* `Decimal.toDocument` — spelling.
-/

namespace ClassWeaver

/-- The number `± digits · 10 ^ exponent`. -/
structure Decimal where
  negative : Bool
  digits : Nat
  exponent : Int
  deriving DecidableEq, Repr

namespace Decimal

/-- The mark in front of negative numbers. -/
def sign (d : Decimal) : String :=
  if d.negative then "-" else ""

/-- The digits with a point, `point` places behind the first, and a digit at least on both sides of it. -/
def positional (digits : List Char) (point : Int) : String :=
  if point ≤ 0 then "0." ++ String.ofList (List.replicate (-point).toNat '0' ++ digits)
  else if digits.length ≤ point.toNat then
    String.ofList (digits ++ List.replicate (point.toNat - digits.length) '0') ++ ".0"
  else String.ofList (digits.take point.toNat) ++ "." ++ String.ofList (digits.drop point.toNat)

/-- The number as documents spell it: with a power of ten from 10^16 on and below 10^-5. -/
def toDocument (d : Decimal) : String :=
  let digits := Nat.toDigits 10 d.digits
  let point := (digits.length : Int) + d.exponent
  if d.digits = 0 then d.sign ++ "0.0"
  else if -5 < point ∧ point ≤ 16 then d.sign ++ positional digits point
  else
    let fraction := match digits.tail with
      | [] => ""
      | rest => "." ++ String.ofList rest
    let mark := if 1 ≤ point then "+" else ""
    s!"{d.sign}{String.ofList (digits.take 1)}{fraction}e{mark}{point - 1}"

end Decimal

end ClassWeaver
