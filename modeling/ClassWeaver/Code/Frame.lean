import ClassWeaver.Bytes.Decoder
import ClassWeaver.Code.Instruction

/-!
# Stack-map frames

The frames that tell a verifier the types of locals and operands at jump targets. A table of frames is written
with the distance from one frame to the next, so frames are ordered by offset and no two share one; in memory
each frame carries its own position.

## Contents

* `VerificationType`, `FrameKind`, `Frame` — the data, over positions `π`.
* `Frame.decodeTable`, `Frame.place` — reading a table and turning distances into offsets.
* `Frame.encodeTable` — writing a table, given the offset of each position.
-/

namespace ClassWeaver

open Bytes

/-- What a verifier knows of one value. -/
inductive VerificationType (π : Type)
  | top | integer | float | double | long | null | uninitializedThis
  /-- An object of the class at a constant index. -/
  | object (index : UInt16)
  /-- The result of the `new` at a position, before its constructor ran. -/
  | uninitialized (site : π)
  deriving DecidableEq, Repr

/-- How a frame differs from the one before it. -/
inductive FrameKind (π : Type)
  | same
  | sameWithItem (item : VerificationType π)
  | chop (count : UInt8)
  | append (locals : List (VerificationType π))
  | full (locals stack : List (VerificationType π))
  deriving DecidableEq, Repr

/-- A frame and the position it describes. -/
structure Frame (π : Type) where
  position : π
  kind : FrameKind π
  deriving DecidableEq, Repr

variable {π ρ : Type}

/-! ## Positions -/

/-- The position a verification type mentions. -/
def VerificationType.positions : VerificationType π → List π
  | uninitialized p => [p]
  | _ => []

/-- The type with its position renamed. -/
def VerificationType.map (f : π → ρ) : VerificationType π → VerificationType ρ
  | top => top
  | integer => integer
  | float => float
  | double => double
  | long => long
  | null => null
  | uninitializedThis => uninitializedThis
  | object index => object index
  | uninitialized p => uninitialized (f p)

/-- The positions a frame's types mention. -/
def FrameKind.positions : FrameKind π → List π
  | same | chop _ => []
  | sameWithItem item => item.positions
  | append locals => locals.flatMap VerificationType.positions
  | full locals stack => (locals ++ stack).flatMap VerificationType.positions

/-- The kind with every position renamed. -/
def FrameKind.map (f : π → ρ) : FrameKind π → FrameKind ρ
  | same => same
  | sameWithItem item => sameWithItem (item.map f)
  | chop count => chop count
  | append locals => append (locals.map (·.map f))
  | full locals stack => full (locals.map (·.map f)) (stack.map (·.map f))

namespace Frame

/-- The positions a frame mentions, those of its types first. -/
def positions (f : Frame π) : List π :=
  f.kind.positions ++ [f.position]

/-- The frame with every position renamed. -/
def map (g : π → ρ) (f : Frame π) : Frame ρ :=
  ⟨g f.position, f.kind.map g⟩

end Frame

/-! ## Reading -/

/-- A verification type whose position is a byte offset; an unknown tag is refused behind the tag. -/
def VerificationType.decode : Decoder (VerificationType Nat) := do
  let tag ← Decoder.u1
  match tag.toNat with
  | 0 => return top
  | 1 => return integer
  | 2 => return float
  | 3 => return double
  | 4 => return long
  | 5 => return null
  | 6 => return uninitializedThis
  | 7 => return object (← Decoder.u2)
  | 8 => return uninitialized (← Decoder.u2).toNat
  | _ => Decoder.stop

/-- A frame as written: its distance from the frame before it, and its kind. -/
def FrameKind.decode : Decoder (Nat × FrameKind Nat) := do
  let tag := (← Decoder.u1).toNat
  if tag ≤ 63 then return (tag, same)
  else if tag ≤ 127 then return (tag - 64, sameWithItem (← VerificationType.decode))
  else if tag ≤ 246 then Decoder.stop
  else
    let delta := (← Decoder.u2).toNat
    if tag = 247 then return (delta, sameWithItem (← VerificationType.decode))
    else if tag ≤ 250 then return (delta, chop (UInt8.ofNat (251 - tag)))
    else if tag = 251 then return (delta, same)
    else if tag ≤ 254 then
      return (delta, append (← Decoder.repeated VerificationType.decode (tag - 251)))
    else
      let locals ← Decoder.counted VerificationType.decode
      let stack ← Decoder.counted VerificationType.decode
      return (delta, full locals stack)

namespace Frame

/-- A table of frames as written. -/
def decodeTable : Decoder (List (Nat × FrameKind Nat)) :=
  Decoder.counted FrameKind.decode

/-- The frames of a table, each at the offset its distance gives; `next` is the smallest offset that the first
frame can have. -/
def place (next : Nat) : List (Nat × FrameKind Nat) → List (Frame Nat)
  | [] => []
  | (delta, kind) :: rest => ⟨next + delta, kind⟩ :: place (next + delta + 1) rest

end Frame

/-! ## Writing -/

/-- The bytes of a verification type, given the offset of each position. -/
def VerificationType.encode (offsetOf : π → Except Defect Nat) : VerificationType π → Except Defect (List UInt8)
  | top => .ok [0]
  | integer => .ok [1]
  | float => .ok [2]
  | double => .ok [3]
  | long => .ok [4]
  | null => .ok [5]
  | uninitializedThis => .ok [6]
  | object index => .ok (7 :: u16 index)
  | uninitialized p =>
    match offsetOf p with
    | .ok offset => .ok (8 :: count16 offset)
    | .error e => .error e

/-- The bytes of verification types, one after the other. -/
def VerificationType.encodeAll (offsetOf : π → Except Defect Nat) (types : List (VerificationType π)) :
    Except Defect (List UInt8) :=
  List.flatten <$> types.mapM (encode offsetOf)

/-- The bytes of a frame at the distance `delta` from the frame before it; short distances have short forms. -/
def FrameKind.encode (offsetOf : π → Except Defect Nat) (delta : Nat) : FrameKind π → Except Defect (List UInt8)
  | same => .ok (if delta ≤ 63 then [UInt8.ofNat delta] else 251 :: count16 delta)
  | sameWithItem item => do
    let item ← item.encode offsetOf
    return (if delta ≤ 63 then [UInt8.ofNat (64 + delta)] else 247 :: count16 delta) ++ item
  | chop count => .ok ((251 - count) :: count16 delta)
  | append locals => do
    let types ← VerificationType.encodeAll offsetOf locals
    return UInt8.ofNat (251 + locals.length) :: (count16 delta ++ types)
  | full locals stack => do
    let localTypes ← VerificationType.encodeAll offsetOf locals
    let stackTypes ← VerificationType.encodeAll offsetOf stack
    return 255 :: (count16 delta ++ (count16 locals.length ++ (localTypes ++
      (count16 stack.length ++ stackTypes))))

namespace Frame

/-- The bytes of frames in the order of their offsets; `next` is the smallest offset that the first frame can
have, and `written` holds the bytes of the earlier frames, the latest first. -/
def encodeFrom (offsetOf : π → Except Defect Nat) (next : Nat) (written : List (List UInt8)) :
    List (Nat × FrameKind π) → Except Defect (List UInt8)
  | [] => .ok written.reverse.flatten
  | (offset, kind) :: rest =>
    if offset < next then .error (.malformed (.doubleFrame offset))
    else
      match kind.encode offsetOf (offset - next) with
      | .error e => .error e
      | .ok bytes => encodeFrom offsetOf (offset + 1) (bytes :: written) rest

/-- The bytes of a table of frames, given in any order. -/
def encodeTable (offsetOf : π → Except Defect Nat) (frames : List (Frame π)) : Except Defect (List UInt8) := do
  let placed ← frames.mapM fun f => return (← offsetOf f.position, f.kind)
  let bytes ← encodeFrom offsetOf 0 [] (placed.mergeSort fun a b => a.1 ≤ b.1)
  return count16 placed.length ++ bytes

end Frame

end ClassWeaver
