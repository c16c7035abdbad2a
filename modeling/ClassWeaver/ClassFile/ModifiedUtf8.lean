import ClassWeaver.ClassFile.Defect

/-!
# Modified UTF-8

The text encoding of class constants. It writes UTF-16 code units, each in one to three bytes, so a
supplementary character takes two surrogates of three bytes each, and it writes the unit 0 in two bytes, so no
byte of a text is zero. Reading accepts every spelling of a unit, overlong ones included, and shows a surrogate
without its partner as U+FFFD.

## Contents

* `units`, `unitBytes`, `encode` — characters to units to bytes.
* `decodeUnits`, `textOfUnits`, `decode` — bytes to units to characters.
-/

namespace ClassWeaver.ModifiedUtf8

/-! ## Writing -/

/-- The UTF-16 code units of a character. -/
def units (c : Char) : List Nat :=
  let n := c.toNat
  if n < 0x10000 then [n]
  else [0xD800 + (n - 0x10000) / 0x400, 0xDC00 + (n - 0x10000) % 0x400]

/-- The bytes of a code unit. -/
def unitBytes (unit : Nat) : List UInt8 :=
  if 0 < unit ∧ unit < 0x80 then [UInt8.ofNat unit]
  else if unit < 0x800 then [UInt8.ofNat (0xC0 + unit / 64), UInt8.ofNat (0x80 + unit % 64)]
  else
    [UInt8.ofNat (0xE0 + unit / 4096), UInt8.ofNat (0x80 + unit / 64 % 64), UInt8.ofNat (0x80 + unit % 64)]

/-- The bytes of a text. -/
def encode (text : String) : List UInt8 :=
  text.toList.flatMap fun c => (units c).flatMap unitBytes

/-! ## Reading -/

/-- The low six bits of a byte. -/
def low6 (b : UInt8) : Nat :=
  b.toNat % 64

/-- The code units that a byte run spells, in front of which the units `read` were found, the latest first. -/
def decodeUnits (read : List Nat) : List UInt8 → Option (List Nat)
  | [] => some read.reverse
  | a :: rest =>
    if 0 < a.toNat ∧ a.toNat < 0x80 then decodeUnits (a.toNat :: read) rest
    else if 0xC0 ≤ a.toNat ∧ a.toNat < 0xE0 then
      match rest with
      | b :: rest => decodeUnits ((a.toNat % 32 * 64 + low6 b) :: read) rest
      | _ => none
    else if 0xE0 ≤ a.toNat ∧ a.toNat < 0xF0 then
      match rest with
      | b :: c :: rest => decodeUnits ((a.toNat % 16 * 4096 + low6 b * 64 + low6 c) :: read) rest
      | _ => none
    else none

/-- Whether a unit is the first half of a pair. -/
def isHighSurrogate (unit : Nat) : Bool :=
  0xD800 ≤ unit && unit < 0xDC00

/-- Whether a unit is the second half of a pair. -/
def isLowSurrogate (unit : Nat) : Bool :=
  0xDC00 ≤ unit && unit < 0xE000

/-- The character that stands for a surrogate without its partner. -/
def replacement : Char :=
  '\uFFFD'

/-- The characters that code units spell. `read` holds the earlier characters, the latest first, and `high` a
first half that waits for its partner. -/
def textOfUnits (read : List Char) (high : Option Nat) : List Nat → List Char
  | [] => (if high.isSome then replacement :: read else read).reverse
  | unit :: rest =>
    match high with
    | some h =>
      if isLowSurrogate unit then
        textOfUnits (Char.ofNat (0x10000 + (h - 0xD800) * 0x400 + (unit - 0xDC00)) :: read) none rest
      else if isHighSurrogate unit then textOfUnits (replacement :: read) (some unit) rest
      else textOfUnits (Char.ofNat unit :: replacement :: read) none rest
    | none =>
      if isHighSurrogate unit then textOfUnits read (some unit) rest
      else if isLowSurrogate unit then textOfUnits (replacement :: read) none rest
      else textOfUnits (Char.ofNat unit :: read) none rest

/-- Whether a byte spells an ASCII character other than NUL. -/
def isPlain (b : UInt8) : Bool :=
  b != 0 && b < 0x80

/-- The text that a byte run spells. A run of plain bytes is its own text. -/
def decode (bytes : List UInt8) : Except Defect String :=
  if bytes.all isPlain then .ok (String.ofList (bytes.map fun b => Char.ofNat b.toNat))
  else
    match decodeUnits [] bytes with
    | some units => .ok (String.ofList (textOfUnits [] none units))
    | none => .error (.malformed .badText)

end ClassWeaver.ModifiedUtf8
