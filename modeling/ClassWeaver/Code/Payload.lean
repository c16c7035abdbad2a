import ClassWeaver.Code.Layout

/-!
# Payloads of method bodies

A body as the bytes of its attribute. The body is laid out, its instructions are written at their offsets, and
its tables follow with labels replaced by offsets. Tables without rows are left out. The names of the tables are
added to the constant pool as they are needed, and stay there when a later part fails.

## Contents

* `Instruction.toBytes` — an instruction over offsets.
* `Layout.code` — the code array.
* `MethodBody.encode` — the payload.
-/

namespace ClassWeaver

open Bytes

/-! ## Instructions -/

/-- The 32-bit distance from an instruction to a target. -/
def distance4 (offset target : Nat) : List UInt8 :=
  i32 (Int32.ofInt ((target : Int) - offset))

/-- The 16-bit distance from an instruction to a target. -/
def distance2 (offset target : Nat) : List UInt8 :=
  i16 (Int16.ofInt ((target : Int) - offset))

/-- The zero bytes behind a switch's code. -/
def paddingBytes (offset : Nat) : List UInt8 :=
  List.replicate (switchPadding offset) 0

/-- The bytes of an instruction at an offset; `long` chooses the long form of a jump. -/
def Instruction.toBytes (offset : Nat) (long : Bool) : Instruction Nat → List UInt8
  | mark _ => []
  | simple op => [op]
  | push op value =>
    if op = Opcode.bipush then [op, value.toUInt16.toUInt8] else op :: i16 value
  | constant index twoSlots =>
    if twoSlots then Opcode.ldc2W :: u16 index
    else if index < 256 then [Opcode.ldc, index.toUInt8]
    else Opcode.ldcW :: u16 index
  | localVar op index =>
    match Opcode.compact? op index with
    | some compact => [compact]
    | none => if index < 256 then [op, index.toUInt8] else Opcode.wide :: op :: u16 index
  | increment index delta =>
    if index < 256 && fitsInByte delta.toInt then [Opcode.iinc, index.toUInt8, delta.toUInt16.toUInt8]
    else Opcode.wide :: Opcode.iinc :: (u16 index ++ i16 delta)
  | jump op target =>
    if long then (if op = Opcode.goto then Opcode.gotoW else Opcode.jsrW) :: distance4 offset target
    else op :: distance2 offset target
  | tableSwitch otherwise low high targets =>
    Opcode.tableSwitch :: (paddingBytes offset ++ (distance4 offset otherwise ++ (i32 low ++ (i32 high ++
      targets.flatMap (distance4 offset)))))
  | lookupSwitch otherwise pairs =>
    Opcode.lookupSwitch :: (paddingBytes offset ++ (distance4 offset otherwise ++
      (u32 (UInt32.ofNat pairs.length) ++
        pairs.flatMap fun (key, target) => i32 key ++ distance4 offset target)))
  | field op index | method op index | type op index => op :: u16 index
  | invokeInterface index count => Opcode.invokeInterface :: (u16 index ++ [count, 0])
  | invokeDynamic index => Opcode.invokeDynamic :: (u16 index ++ [0, 0])
  | newArray elements => [Opcode.newArray, elements]
  | multiNewArray index dimensions => Opcode.multiNewArray :: (u16 index ++ [dimensions])

namespace Layout

/-- The bytes of items, one after the other; the first item that cannot be written decides. -/
def rowBytes {α : Type} (row : α → Except Defect (List UInt8)) (rows : List α) : Except Defect (List UInt8) :=
  List.flatten <$> rows.mapM row

/-- The bytes of a placed instruction. -/
def stepBytes (l : Layout) (s : PlacedInstruction) : Except Defect (List UInt8) := do
  let i ← s.instruction.mapM l.offsetOf
  return i.toBytes s.offset s.long

/-- The code array. -/
def code (l : Layout) : Except Defect (List UInt8) :=
  rowBytes l.stepBytes l.steps

/-- The two bytes of a label's offset. -/
def offsetBytes (l : Layout) (label : Label) : Except Defect (List UInt8) :=
  count16 <$> l.offsetOf label

/-! ## Tables -/

/-- A row of the table of handlers. -/
def handlerBytes (l : Layout) (h : Handler Label) : Except Defect (List UInt8) := do
  let start ← l.offsetBytes h.start
  let stop ← l.offsetBytes h.stop
  let handler ← l.offsetBytes h.handler
  return start ++ (stop ++ (handler ++ u16 h.catchType))

/-- A row of the table of line numbers. -/
def lineBytes (l : Layout) (e : LineEntry Label) : Except Defect (List UInt8) := do
  let start ← l.offsetBytes e.start
  return start ++ u16 e.line

/-- A row of a table of variables; a range that ends before it starts has no length. -/
def variableBytes (l : Layout) (v : VariableEntry Label) : Except Defect (List UInt8) := do
  let start ← l.offsetOf v.start
  let stop ← l.offsetOf v.stop
  return count16 start ++ (count16 (stop - start) ++ (u16 v.nameIndex ++ (u16 v.typeIndex ++ u16 v.index)))

end Layout

namespace MethodBody

open ConstantPool (Addition)

/-- The attribute that holds a table, if the table has rows. -/
def tableAttribute {α : Type} (name : String) (row : α → Except Defect (List UInt8)) (rows : List α) :
    Addition (List Attribute) := do
  if rows.isEmpty then return []
  else
    let bytes ← Layout.rowBytes row rows
    let nameIndex ← ConstantPool.addUtf8 name
    return [⟨nameIndex, count16 rows.length ++ bytes⟩]

/-- The attribute that holds the frames, if there are any. -/
def frameAttribute (l : Layout) (frames : List (Frame Label)) : Addition (List Attribute) := do
  if frames.isEmpty then return []
  else
    let bytes ← Frame.encodeTable l.offsetOf frames
    let nameIndex ← ConstantPool.addUtf8 "StackMapTable"
    return [⟨nameIndex, bytes⟩]

/-- The attributes of a laid-out body: its tables, then what is carried along. -/
def encodeAttributes (b : MethodBody) (l : Layout) : Addition (List Attribute) := do
  let lines ← tableAttribute "LineNumberTable" l.lineBytes b.lines
  let variableRows ← tableAttribute "LocalVariableTable" l.variableBytes b.variableRows
  let variableTypes ← tableAttribute "LocalVariableTypeTable" l.variableBytes b.variableTypes
  let frames ← frameAttribute l (b.frames.getD [])
  return lines ++ (variableRows ++ (variableTypes ++ (frames ++ b.attributes)))

/-- The longest code array. -/
def maxLength : Nat :=
  65535

/-- The payload of the body. -/
def encode (b : MethodBody) : Addition (List UInt8) := do
  let l ← b.layout
  if maxLength < l.length then throw (.codeTooLarge l.length)
  else
    let code ← l.code
    let handlers ← Layout.rowBytes l.handlerBytes b.handlers
    let attributes ← b.encodeAttributes l
    return u16 b.maxStack ++ (u16 b.maxLocals ++ (sized code ++ (count16 b.handlers.length ++
      (handlers ++ countedBytes Attribute.toBytes attributes))))

end MethodBody

end ClassWeaver
