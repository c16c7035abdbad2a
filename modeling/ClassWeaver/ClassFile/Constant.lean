import ClassWeaver.Bytes.Decoder
import ClassWeaver.ClassFile.ModifiedUtf8

/-!
# Constants

One entry of a constant pool and its bytes: a tag and the fields that the tag announces. A text constant keeps
the bytes it was read from, because several byte runs spell one text. Floating point constants are bit
patterns.
-/

namespace ClassWeaver

open Bytes

/-- A text constant: its text, and the bytes that spell it. -/
structure Utf8Constant where
  text : String
  raw : List UInt8
  deriving DecidableEq, Repr

namespace Utf8Constant

/-- The constant with the standard spelling of a text. -/
def ofText (text : String) : Utf8Constant :=
  ⟨text, ModifiedUtf8.encode text⟩

/-- The constant with the given spelling. -/
def ofRaw (raw : List UInt8) : Except Defect Utf8Constant :=
  match ModifiedUtf8.decode raw with
  | .ok text => .ok ⟨text, raw⟩
  | .error e => .error e

end Utf8Constant

/-- An entry of a constant pool. -/
inductive Constant
  | utf8 (value : Utf8Constant)
  | integer (value : Int32)
  /-- A single-precision bit pattern. -/
  | float (bits : UInt32)
  | long (value : Int64)
  /-- A double-precision bit pattern. -/
  | double (bits : UInt64)
  | classRef (name : UInt16)
  | string (text : UInt16)
  | fieldRef (owner member : UInt16)
  | methodRef (owner member : UInt16)
  | interfaceMethodRef (owner member : UInt16)
  | nameAndType (name descriptor : UInt16)
  | methodHandle (kind : UInt8) (reference : UInt16)
  | methodType (descriptor : UInt16)
  | dynamic (bootstrap member : UInt16)
  | invokeDynamic (bootstrap member : UInt16)
  | moduleRef (name : UInt16)
  | packageRef (name : UInt16)
  /-- The slot 0 and the second slot of a long or a double. -/
  | unusable
  deriving DecidableEq, Repr

namespace Constant

/-- Whether the constant takes two slots. -/
def isWide : Constant → Bool
  | long _ | double _ => true
  | _ => false

/-- Slots that the constant takes. -/
def width (c : Constant) : Nat :=
  if c.isWide then 2 else 1

/-! ## Writing -/

/-- The bytes of a constant; an unusable slot has none. -/
def toBytes : Constant → List UInt8
  | utf8 value => 1 :: (count16 value.raw.length ++ value.raw)
  | integer value => 3 :: i32 value
  | float bits => 4 :: u32 bits
  | long value => 5 :: i64 value
  | double bits => 6 :: u64 bits
  | classRef name => 7 :: u16 name
  | string text => 8 :: u16 text
  | fieldRef owner member => 9 :: (u16 owner ++ u16 member)
  | methodRef owner member => 10 :: (u16 owner ++ u16 member)
  | interfaceMethodRef owner member => 11 :: (u16 owner ++ u16 member)
  | nameAndType name descriptor => 12 :: (u16 name ++ u16 descriptor)
  | methodHandle kind reference => 15 :: kind :: u16 reference
  | methodType descriptor => 16 :: u16 descriptor
  | dynamic bootstrap member => 17 :: (u16 bootstrap ++ u16 member)
  | invokeDynamic bootstrap member => 18 :: (u16 bootstrap ++ u16 member)
  | moduleRef name => 19 :: u16 name
  | packageRef name => 20 :: u16 name
  | unusable => []

/-! ## Reading -/

/-- Two 16-bit numbers, handed to a constructor. -/
def pair (make : UInt16 → UInt16 → Constant) : Decoder Constant := do
  let a ← Decoder.u2
  let b ← Decoder.u2
  return make a b

/-- A text constant behind its length; bytes that spell no text are refused at their end. -/
def decodeUtf8 : Decoder Constant := do
  let length ← Decoder.u2
  let raw ← Decoder.run length.toNat
  match Utf8Constant.ofRaw raw with
  | .ok value => return utf8 value
  | .error _ => Decoder.stop

/-- The fields behind a tag; an unknown tag is refused behind the tag. -/
def decodeFields (tag : UInt8) : Decoder Constant :=
  match tag.toNat with
  | 1 => decodeUtf8
  | 3 => integer <$> Decoder.i4
  | 4 => float <$> Decoder.u4
  | 5 => (fun bits => long bits.toInt64) <$> Decoder.u8
  | 6 => double <$> Decoder.u8
  | 7 => classRef <$> Decoder.u2
  | 8 => string <$> Decoder.u2
  | 9 => pair fieldRef
  | 10 => pair methodRef
  | 11 => pair interfaceMethodRef
  | 12 => pair nameAndType
  | 15 => do
    let kind ← Decoder.u1
    let reference ← Decoder.u2
    return methodHandle kind reference
  | 16 => methodType <$> Decoder.u2
  | 17 => pair dynamic
  | 18 => pair invokeDynamic
  | 19 => moduleRef <$> Decoder.u2
  | 20 => packageRef <$> Decoder.u2
  | _ => Decoder.stop

/-- One constant. -/
def decode : Decoder Constant := do
  let tag ← Decoder.u1
  decodeFields tag

end Constant

end ClassWeaver
