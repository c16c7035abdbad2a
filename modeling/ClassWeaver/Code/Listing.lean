import ClassWeaver.Code.Body
import Std.Data.TreeMap
import Std.Data.TreeSet

/-!
# Listings

A method body as its payload gives it: every instruction at its byte offset, every position a byte offset inside
the body. A payload is read into a listing, and a listing becomes a body by giving each offset that is mentioned
a label, numbered in the order of first mention, and a mark in front of the instruction at that offset.

## Contents

* `Operands` — reading the operand bytes of one instruction.
* `decodeInstruction`, `decodeSteps` — instructions at their offsets.
* `BodyAttribute` — the attributes of a body: tables over offsets, and payloads carried along.
* `Listing`, `Listing.decode` — the payload of a body.
* `Listing.mentions`, `Listing.numbering`, `Listing.toBody` — from offsets to labels.
* `MethodBody.decode` — all of it.
-/

namespace ClassWeaver

open Bytes

/-! ## Offsets -/

/-- The smallest number of zero bytes behind a switch's code that put the next byte at a multiple of four. -/
def switchPadding (offset : Nat) : Nat :=
  3 - offset % 4

/-- An offset, which has to lie in a body of the given length or at its end. -/
def checkOffset (length : Nat) (offset : Int) : Except Defect Nat :=
  if 0 ≤ offset ∧ offset ≤ length then .ok offset.toNat
  else .error (.malformed (.offsetOutside offset))

/-- Checks offsets in their order. -/
def checkOffsets (length : Nat) (offsets : List Nat) : Except Defect Unit :=
  offsets.forM fun offset => do
    let _ ← checkOffset length offset

/-! ## Operands -/

/-- The bytes of a code array that were not read yet, and the offset of the first of them. -/
structure Cursor where
  offset : Nat
  rest : List UInt8

/-- A reader of operands; a missing byte is reported at its offset. -/
abbrev Operands (α : Type) :=
  StateT Cursor (Except Defect) α

namespace Operands

/-- One byte. -/
def u1 : Operands UInt8 := fun c =>
  match c.rest with
  | [] => .error (.truncated c.offset)
  | b :: rest => .ok (b, ⟨c.offset + 1, rest⟩)

/-- A 16-bit number. -/
def u2 : Operands UInt16 := do
  let a ← u1
  let b ← u1
  return word a b

/-- A signed byte. -/
def i1 : Operands Int16 := do
  return (← u1).toInt8.toInt16

/-- A signed 16-bit number. -/
def i2 : Operands Int16 := do
  return (← u2).toInt16

/-- A signed 32-bit number. -/
def i4 : Operands Int32 := do
  let a ← u1
  let b ← u1
  let c ← u1
  let d ← u1
  return (doubleWord a b c d).toInt32

/-- Moves on without looking, beyond the end if need be. -/
def skip (n : Nat) : Operands Unit := fun c =>
  .ok ((), ⟨c.offset + n, c.rest.drop n⟩)

/-- The branch target at a distance from the instruction at `start` in a body of the given length. -/
def target (length start : Nat) (distance : Int) : Operands Nat := fun c =>
  match checkOffset length (start + distance) with
  | .ok offset => .ok (offset, c)
  | .error e => .error e

/-- The branch target at the 32-bit distance that comes next. -/
def target4 (length start : Nat) : Operands Nat := do
  let distance ← i4
  target length start distance.toInt

/-- The next `n` targets of a table switch. -/
def targets (length start : Nat) (read : List Nat) : Nat → Operands (List Nat)
  | 0 => fun c => .ok (read.reverse, c)
  | n + 1 => fun c =>
    match target4 length start c with
    | .error e => .error e
    | .ok (t, c) => targets length start (t :: read) n c

/-- A key and its target. -/
def keyed (length start : Nat) : Operands (Int32 × Nat) := do
  let key ← i4
  let t ← target4 length start
  return (key, t)

/-- The next `n` keys and targets of a lookup switch. -/
def pairs (length start : Nat) (read : List (Int32 × Nat)) : Nat → Operands (List (Int32 × Nat))
  | 0 => fun c => .ok (read.reverse, c)
  | n + 1 => fun c =>
    match keyed length start c with
    | .error e => .error e
    | .ok (p, c) => pairs length start (p :: read) n c

/-- Gives up for the given reason. -/
def refuse {α : Type} (d : Defect) : Operands α := fun _ =>
  .error d

end Operands

/-! ## Instructions -/

open Operands in
/-- The rest of a table switch at offset `start`. -/
def decodeTableSwitch (length start : Nat) : Operands (Instruction Nat) := do
  skip (switchPadding start)
  let otherwise ← target4 length start
  let low ← i4
  let high ← i4
  if high < low then refuse (.malformed (.emptyTable start))
  else
    let ts ← targets length start [] (high.toInt - low.toInt + 1).toNat
    return .tableSwitch otherwise low high ts

open Operands in
/-- The rest of a lookup switch at offset `start`. -/
def decodeLookupSwitch (length start : Nat) : Operands (Instruction Nat) := do
  skip (switchPadding start)
  let otherwise ← target4 length start
  let count ← i4
  if count < 0 then refuse (.malformed (.negativePairs start))
  else
    let ps ← pairs length start [] count.toInt.toNat
    return .lookupSwitch otherwise ps

open Operands in
/-- The rest of an instruction behind the widening code at offset `start`. -/
def decodeWide (start : Nat) : Operands (Instruction Nat) := do
  let op ← u1
  let index ← u2
  if op = Opcode.iinc then return .increment index (← i2)
  else if Opcode.isVariable op then return .localVar op index
  else refuse (.unknownOpcode op (start + 1))

open Operands in
/-- The rest of an instruction with the given code at offset `start` of a body of the given length. -/
def decodeOperands (length start : Nat) (op : UInt8) : Operands (Instruction Nat) := do
  if Opcode.isSimple op then return .simple op
  else if let some (long, index) := Opcode.expandCompact? op then return .localVar long index
  else if Opcode.isVariable op then return .localVar op (← u1).toUInt16
  else if Opcode.isJump op then
    let distance ← i2
    let t ← target length start distance.toInt
    return .jump op t
  else if op = Opcode.bipush then return .push op (← i1)
  else if op = Opcode.sipush then return .push op (← i2)
  else if op = Opcode.ldc then return .constant (← u1).toUInt16 false
  else if op = Opcode.ldcW then return .constant (← u2) false
  else if op = Opcode.ldc2W then return .constant (← u2) true
  else if op = Opcode.iinc then
    let index ← u1
    let delta ← i1
    return .increment index.toUInt16 delta
  else if op = Opcode.gotoW then return .jump Opcode.goto (← target4 length start)
  else if op = Opcode.jsrW then return .jump Opcode.jsr (← target4 length start)
  else if op = Opcode.tableSwitch then decodeTableSwitch length start
  else if op = Opcode.lookupSwitch then decodeLookupSwitch length start
  else if Opcode.isField op then return .field op (← u2)
  else if Opcode.isMethod op then return .method op (← u2)
  else if op = Opcode.invokeInterface then
    let index ← u2
    let count ← u1
    skip 1
    return .invokeInterface index count
  else if op = Opcode.invokeDynamic then
    let index ← u2
    skip 2
    return .invokeDynamic index
  else if Opcode.isType op then return .type op (← u2)
  else if op = Opcode.newArray then return .newArray (← u1)
  else if op = Opcode.multiNewArray then
    let index ← u2
    let dimensions ← u1
    return .multiNewArray index dimensions
  else if op = Opcode.wide then decodeWide start
  else refuse (.unknownOpcode op start)

/-- The instruction at the cursor of a body of the given length; it has to end inside the body. -/
def decodeInstruction (length : Nat) : Operands (Instruction Nat) := fun c =>
  match Operands.u1 c with
  | .error e => .error e
  | .ok (op, operands) =>
    match decodeOperands length c.offset op operands with
    | .error e => .error e
    | .ok (i, next) => if length < next.offset then .error (.truncated c.offset) else .ok (i, next)

/-- The instructions from the cursor on, at most `fuel` of them, behind those in `read`, the latest first. -/
def decodeStepsFrom (length : Nat) (read : List (Nat × Instruction Nat)) :
    (fuel : Nat) → Cursor → Except Defect (List (Nat × Instruction Nat))
  | 0, _ => .ok read.reverse
  | fuel + 1, c =>
    if c.rest.isEmpty then .ok read.reverse
    else
      match decodeInstruction length c with
      | .error e => .error e
      | .ok (i, next) => decodeStepsFrom length ((c.offset, i) :: read) fuel next

/-- The instructions of a code array. Each takes a byte at least, so there are no more than bytes. -/
def decodeSteps (code : List UInt8) : Except Defect (List (Nat × Instruction Nat)) :=
  decodeStepsFrom code.length [] code.length ⟨0, code⟩

/-! ## Attributes of a body -/

/-- An attribute of a body, read as far as its positions have to be known. -/
inductive BodyAttribute
  | lines (entries : List (LineEntry Nat))
  | variableRows (entries : List (VariableEntry Nat))
  | variableTypes (entries : List (VariableEntry Nat))
  | frames (table : List (Frame Nat))
  /-- Type annotations hold offsets that cannot be followed, so they are left out. -/
  | dropped
  | carried (a : Attribute)

namespace BodyAttribute

/-- The offsets an attribute mentions. -/
def positions : BodyAttribute → List Nat
  | lines entries => entries.map LineEntry.start
  | variableRows entries | variableTypes entries => entries.flatMap VariableEntry.positions
  | frames table => table.flatMap Frame.positions
  | dropped | carried _ => []

/-- A row of a table of line numbers. -/
def decodeLine : Decoder (LineEntry Nat) := do
  let start ← Decoder.u2
  let line ← Decoder.u2
  return ⟨start.toNat, line⟩

/-- A row of a table of variables, which gives the length of the range. -/
def decodeVariable : Decoder (VariableEntry Nat) := do
  let start ← Decoder.u2
  let length ← Decoder.u2
  let nameIndex ← Decoder.u2
  let typeIndex ← Decoder.u2
  let index ← Decoder.u2
  return ⟨start.toNat, start.toNat + length.toNat, nameIndex, typeIndex, index⟩

/-- Reads the payload of an attribute with the given name. -/
def decodeNamed (name : String) (a : Attribute) : Except Defect BodyAttribute :=
  match name with
  | "LineNumberTable" => lines <$> Decoder.parse (Decoder.counted decodeLine) a.info
  | "LocalVariableTable" => variableRows <$> Decoder.parse (Decoder.counted decodeVariable) a.info
  | "LocalVariableTypeTable" => variableTypes <$> Decoder.parse (Decoder.counted decodeVariable) a.info
  | "StackMapTable" => (fun table => frames (Frame.place 0 table)) <$> Decoder.parse Frame.decodeTable a.info
  | "RuntimeVisibleTypeAnnotations" | "RuntimeInvisibleTypeAnnotations" => .ok dropped
  | _ => .ok (carried a)

/-- Reads an attribute of a body of the given length and checks the offsets it mentions. -/
def decode (pool : ConstantPool) (length : Nat) (a : Attribute) : Except Defect BodyAttribute := do
  let name ← pool.utf8 a.nameIndex
  let content ← decodeNamed name a
  checkOffsets length content.positions
  return content

end BodyAttribute

/-! ## Listings -/

/-- A method body over byte offsets. -/
structure Listing where
  maxStack : UInt16
  maxLocals : UInt16
  /-- The number of bytes of the code array. -/
  length : Nat
  /-- The instructions at their offsets. -/
  steps : List (Nat × Instruction Nat)
  handlers : List (Handler Nat)
  attributes : List BodyAttribute

/-- The payload of a body, cut into its parts. -/
structure RawBody where
  maxStack : UInt16
  maxLocals : UInt16
  code : List UInt8
  handlers : List (Handler Nat)
  attributes : List Attribute

namespace RawBody

/-- A row of the table of handlers. -/
def decodeHandler : Decoder (Handler Nat) := do
  let start ← Decoder.u2
  let stop ← Decoder.u2
  let handler ← Decoder.u2
  let catchType ← Decoder.u2
  return ⟨start.toNat, stop.toNat, handler.toNat, catchType⟩

/-- The parts of a payload. -/
def decode : Decoder RawBody := do
  let maxStack ← Decoder.u2
  let maxLocals ← Decoder.u2
  let code ← Decoder.sizedRun
  let handlers ← Decoder.counted decodeHandler
  let attributes ← Decoder.counted Attribute.decode
  return ⟨maxStack, maxLocals, code, handlers, attributes⟩

end RawBody

namespace Listing

/-- Reads the payload of a body: first its instructions, then its handlers, then its attributes. -/
def decode (pool : ConstantPool) (info : List UInt8) : Except Defect Listing := do
  let raw ← Decoder.parse RawBody.decode info
  let length := raw.code.length
  let steps ← decodeSteps raw.code
  checkOffsets length (raw.handlers.flatMap Handler.positions)
  let attributes ← raw.attributes.mapM (BodyAttribute.decode pool length)
  return ⟨raw.maxStack, raw.maxLocals, length, steps, raw.handlers, attributes⟩

/-- Every offset that is mentioned, in the order of mention. -/
def mentions (l : Listing) : List Nat :=
  l.steps.flatMap (fun s => s.2.positions) ++ (l.handlers.flatMap Handler.positions ++
    l.attributes.flatMap BodyAttribute.positions)

/-- Labels for offsets. -/
abbrev Numbering :=
  Std.TreeMap Nat Label

/-- Gives an offset the next label, unless it has one. -/
def numberNext (n : Numbering) (offset : Nat) : Numbering :=
  if n.contains offset then n else n.insert offset ⟨n.size⟩

/-- The labels of the offsets that are mentioned, numbered in the order of first mention. -/
def numbering (l : Listing) : Numbering :=
  l.mentions.foldl numberNext ∅

/-- The offsets where an instruction starts, and the end of the code. -/
def boundaries (l : Listing) : Std.TreeSet Nat :=
  (l.steps.map Prod.fst).foldl (·.insert ·) ((∅ : Std.TreeSet Nat).insert l.length)

/-- The smallest offset that is mentioned although no instruction starts there. -/
def stray? (l : Listing) : Option Nat :=
  let boundaries := l.boundaries
  l.numbering.keys.find? fun offset => !boundaries.contains offset

/-- The mark of an offset that has a label. -/
def markAt (n : Numbering) (offset : Nat) : List (Instruction Label) :=
  match n[offset]? with
  | some label => [.mark label]
  | none => []

/-- The label of an offset that is mentioned. -/
def labelOf (n : Numbering) (offset : Nat) : Label :=
  n.getD offset ⟨0⟩

/-- The instructions with a mark in front of each that is mentioned, and one at the end if that is. -/
def marked (n : Numbering) (steps : List (Nat × Instruction Nat)) (length : Nat) : List (Instruction Label) :=
  (steps.flatMap fun (offset, i) => markAt n offset ++ [i.map (labelOf n)]) ++ markAt n length

/-- The lines of all line tables. -/
def lines (l : Listing) : List (LineEntry Nat) :=
  l.attributes.flatMap fun
    | .lines entries => entries
    | _ => []

/-- The last of some tables, or the empty one. -/
def last {α : Type} (tables : List (List α)) : List α :=
  (tables.getLast?).getD []

/-- The last table of variables. -/
def variableRows (l : Listing) : List (VariableEntry Nat) :=
  last (l.attributes.filterMap fun
    | .variableRows entries => some entries
    | _ => none)

/-- The last table of generic variable types. -/
def variableTypes (l : Listing) : List (VariableEntry Nat) :=
  last (l.attributes.filterMap fun
    | .variableTypes entries => some entries
    | _ => none)

/-- The last table of frames. -/
def frames (l : Listing) : Option (List (Frame Nat)) :=
  (l.attributes.filterMap fun
    | .frames table => some table
    | _ => none).getLast?

/-- The attributes that are carried along. -/
def carried (l : Listing) : List Attribute :=
  l.attributes.filterMap fun
    | .carried a => some a
    | _ => none

/-- The body over labels. -/
def toBody (l : Listing) : MethodBody :=
  let n := l.numbering
  let name := labelOf n
  { maxStack := l.maxStack
    maxLocals := l.maxLocals
    instructions := marked n l.steps l.length
    handlers := l.handlers.map (·.map name)
    lines := l.lines.map (·.map name)
    variableRows := l.variableRows.map (·.map name)
    variableTypes := l.variableTypes.map (·.map name)
    frames := l.frames.map (·.map (·.map name))
    attributes := l.carried
    nextLabel := n.size }

end Listing

/-- Reads the payload of a body. -/
def MethodBody.decode (pool : ConstantPool) (info : List UInt8) : Except Defect MethodBody := do
  let listing ← Listing.decode pool info
  match listing.stray? with
  | some offset => .error (.malformed (.offsetInside offset))
  | none => return listing.toBody

end ClassWeaver
