/-!
# Hexadecimal digits

Numbers and bytes as hexadecimal digits. Digits are written small and read in either case.
-/

namespace ClassWeaver.Bytes

/-- The digit of the lowest four bits of a number. -/
def hexDigit (n : Nat) : Char :=
  Nat.digitChar (n % 16)

/-- The last `width` digits of a number. -/
def hexDigits (width n : Nat) : String :=
  String.ofList ((List.range width).map fun i => hexDigit (n / Nat.pow 16 (width - 1 - i)))

/-- The digits of bytes, two for each. -/
def toHex (bytes : List UInt8) : String :=
  String.ofList (bytes.flatMap fun b => [hexDigit (b.toNat / 16), hexDigit b.toNat])

/-- The number of a digit. -/
def hexValue? (c : Char) : Option Nat :=
  let n := c.toNat
  if 48 ≤ n ∧ n ≤ 57 then some (n - 48)
  else if 65 ≤ n ∧ n ≤ 70 then some (n - 55)
  else if 97 ≤ n ∧ n ≤ 102 then some (n - 87)
  else none

/-- The number that digits spell. -/
def hexNumber? (digits : List Char) : Option Nat :=
  digits.foldlM (fun n c => (hexValue? c).map fun d => n * 16 + d) 0

/-- The bytes that pairs of digits stand for, behind those of `done`, last one first. -/
def ofHexDigits? (done : List UInt8) : List Char → Option (List UInt8)
  | [] => some done.reverse
  | [_] => none
  | high :: low :: rest =>
    match hexNumber? [high, low] with
    | some n => ofHexDigits? (UInt8.ofNat n :: done) rest
    | none => none

/-- The bytes that pairs of digits stand for. -/
def ofHex? (text : String) : Option (List UInt8) :=
  ofHexDigits? [] text.toList

end ClassWeaver.Bytes
