import ClassWeaver.Bytes.Hex
import ClassWeaver.Identity.Violation

/-!
# Defects of class data

What can be wrong with a class file, a method body or an edit of either. `Defect` holds the cause; `message`
gives the wording and `code` the diagnostic code.
-/

namespace ClassWeaver

/-- Class data that can be read but has no meaning. -/
inductive Malformation
  /-- A constant whose bytes are no modified UTF-8. -/
  | badText
  /-- Bytes after the end of a class file. -/
  | trailingBytes (count : Nat)
  /-- A method index beyond the list of methods. -/
  | noMethod (index : Nat)
  /-- A code offset before the start or after the end of a method body. -/
  | offsetOutside (offset : Int)
  /-- A code offset between two instructions' starts. -/
  | offsetInside (offset : Nat)
  /-- A table switch with an empty range of keys. -/
  | emptyTable (offset : Nat)
  /-- A lookup switch that announces fewer than no pairs. -/
  | negativePairs (offset : Nat)
  /-- Two stack-map frames at one offset. -/
  | doubleFrame (offset : Nat)
  deriving DecidableEq, Repr

/-- The malformation in words. -/
def Malformation.describe : Malformation → String
  | badText => "invalid modified UTF-8 constant"
  | trailingBytes count => s!"{count} trailing bytes after class file"
  | noMethod index => s!"no method at index {index}"
  | offsetOutside offset => s!"code offset {offset} outside method body"
  | offsetInside offset => s!"code offset {offset} is not an instruction boundary"
  | emptyTable offset => s!"tableswitch at {offset} has high < low"
  | negativePairs offset => s!"lookupswitch at {offset} has negative pair count"
  | doubleFrame offset => s!"two stack map frames at offset {offset}"

/-- The kind of constant that an index was expected to name. -/
inductive ExpectedConstant
  | utf8 | classRef | nameAndType | memberReference
  deriving DecidableEq, Repr

/-- The kind of constant in words. -/
def ExpectedConstant.describe : ExpectedConstant → String
  | utf8 => "Utf8"
  | classRef => "Class"
  | nameAndType => "NameAndType"
  | memberReference => "member reference"

/-- Why class data was refused, or could not be produced. -/
inductive Defect
  | badMagic (found : UInt32)
  | truncated (offset : Nat)
  | malformed (what : Malformation)
  | badConstant (index : UInt16) (expected : ExpectedConstant)
  | unknownOpcode (opcode : UInt8) (offset : Nat)
  | branchOverflow (displacement : Int)
  | unplacedLabel (label : Nat)
  | poolOverflow
  | codeTooLarge (size : Nat)
  | descriptor (cause : Identity.Violation)
  deriving DecidableEq, Repr

namespace Defect

open Bytes (hexDigits)

/-- The text shown for a defect. -/
def message : Defect → String
  | badMagic found => s!"Not a class file: bad magic 0x{hexDigits 8 found.toNat}"
  | truncated offset => s!"Truncated class data at offset {offset}"
  | malformed what => s!"Malformed class data: {what.describe}"
  | badConstant index expected =>
    s!"Constant pool index {index} is not a valid {expected.describe} entry"
  | unknownOpcode opcode offset => s!"Unknown opcode 0x{hexDigits 2 opcode.toNat} at offset {offset}"
  | branchOverflow displacement => s!"Branch offset {displacement} does not fit in a conditional jump"
  | unplacedLabel label => s!"Label {label} is never placed in the instruction list"
  | poolOverflow => "Constant pool is full"
  | codeTooLarge size => s!"Method code is too large ({size} bytes)"
  | descriptor cause => s!"Invalid descriptor: {cause.message}"

/-- The diagnostic code of a defect. -/
def code : Defect → String
  | badMagic _ => "graft::classfile::magic"
  | truncated _ => "graft::classfile::truncated"
  | malformed _ => "graft::classfile::malformed"
  | badConstant _ _ => "graft::classfile::constant"
  | unknownOpcode _ _ => "graft::classfile::opcode"
  | branchOverflow _ => "graft::classfile::branch"
  | unplacedLabel _ => "graft::classfile::label"
  | poolOverflow => "graft::classfile::pool_overflow"
  | codeTooLarge _ => "graft::classfile::code_too_large"
  | descriptor _ => "graft::classfile::descriptor"

end Defect

end ClassWeaver
