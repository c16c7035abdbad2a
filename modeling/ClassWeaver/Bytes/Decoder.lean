import ClassWeaver.Bytes.BigEndian
import ClassWeaver.ClassFile.Defect

/-!
# Reading byte runs

A decoder reads from the front of a byte run. When it cannot go on it says how many bytes were left where the
failing read started, so the offset of the failure in the whole run is the run's length less that number.

## Contents

* `Decoder`, `Shortfall` — readers and how they fail.
* `u1`, `u2`, `u4`, `i4`, `u8` — one number; `run` — a byte run of a given length.
* `repeated`, `counted` — a list of a given length, or behind its 16-bit length.
* `Decoder.parse` — reading a payload, with the failure as a defect of the payload.
-/

namespace ClassWeaver.Bytes

/-- Where reading stopped: the number of bytes from there to the end. -/
structure Shortfall where
  left : Nat
  deriving DecidableEq, Repr

/-- A reader of values from the front of a byte run. -/
abbrev Decoder (α : Type) :=
  StateT (List UInt8) (Except Shortfall) α

namespace Decoder

/-- Gives up at the present position. -/
def stop {α : Type} : Decoder α := fun bytes =>
  .error ⟨bytes.length⟩

/-- One byte. -/
def u1 : Decoder UInt8
  | b :: rest => .ok (b, rest)
  | short => .error ⟨short.length⟩

/-- A 16-bit number. -/
def u2 : Decoder UInt16
  | a :: b :: rest => .ok (word a b, rest)
  | short => .error ⟨short.length⟩

/-- A 32-bit number. -/
def u4 : Decoder UInt32
  | a :: b :: c :: d :: rest => .ok (doubleWord a b c d, rest)
  | short => .error ⟨short.length⟩

/-- A signed 32-bit number. -/
def i4 : Decoder Int32 := do
  return (← u4).toInt32

/-- A 64-bit number, read as two halves. -/
def u8 : Decoder UInt64 := do
  let high ← u4
  let low ← u4
  return quadWord high low

/-- A byte run of the given length. -/
def run (length : Nat) : Decoder (List UInt8) := fun bytes =>
  let taken := bytes.take length
  if taken.length = length then .ok (taken, bytes.drop length) else .error ⟨bytes.length⟩

/-- A byte run behind its 32-bit length. -/
def sizedRun : Decoder (List UInt8) := do
  let length ← u4
  run length.toNat

/-- Reads `n` more items; `read` holds the earlier ones, the latest first. -/
def repeatedFrom {α : Type} (item : Decoder α) (read : List α) : Nat → Decoder (List α)
  | 0 => fun bytes => .ok (read.reverse, bytes)
  | n + 1 => fun bytes =>
    match item bytes with
    | .error e => .error e
    | .ok (x, rest) => repeatedFrom item (x :: read) n rest

/-- A list of the given length. -/
def repeated {α : Type} (item : Decoder α) (n : Nat) : Decoder (List α) :=
  repeatedFrom item [] n

/-- A list behind its 16-bit length. -/
def counted {α : Type} (item : Decoder α) : Decoder (List α) := do
  let n ← u2
  repeated item n.toNat

/-- Reads a payload from its start; what follows the value is not looked at. -/
def parse {α : Type} (d : Decoder α) (payload : List UInt8) : Except Defect α :=
  match d payload with
  | .ok (x, _) => .ok x
  | .error e => .error (.truncated (payload.length - e.left))

end Decoder

end ClassWeaver.Bytes
