/-!
# Operation codes

The operation bytes that instructions are built with, and the classes into which their operands divide them:
none, a local variable, a branch distance. The eight compact forms `xload_0` … `xstore_3` name a long form and
an index in one byte; `expandCompact?` and `compact?` convert between the two.
-/

namespace ClassWeaver.Opcode

/-! ## Single codes -/

def iconst0 : UInt8 := 0x03
def bipush : UInt8 := 0x10
def sipush : UInt8 := 0x11
def ldc : UInt8 := 0x12
def ldcW : UInt8 := 0x13
def ldc2W : UInt8 := 0x14
def iload : UInt8 := 0x15
def lload : UInt8 := 0x16
def fload : UInt8 := 0x17
def dload : UInt8 := 0x18
def aload : UInt8 := 0x19
def iinc : UInt8 := 0x84
def goto : UInt8 := 0xA7
def jsr : UInt8 := 0xA8
def tableSwitch : UInt8 := 0xAA
def lookupSwitch : UInt8 := 0xAB
def ireturn : UInt8 := 0xAC
def lreturn : UInt8 := 0xAD
def freturn : UInt8 := 0xAE
def dreturn : UInt8 := 0xAF
def areturn : UInt8 := 0xB0
def voidReturn : UInt8 := 0xB1
def getStatic : UInt8 := 0xB2
def getField : UInt8 := 0xB4
def invokeVirtual : UInt8 := 0xB6
def invokeSpecial : UInt8 := 0xB7
def invokeStatic : UInt8 := 0xB8
def invokeInterface : UInt8 := 0xB9
def invokeDynamic : UInt8 := 0xBA
def new : UInt8 := 0xBB
def newArray : UInt8 := 0xBC
def anewArray : UInt8 := 0xBD
def checkCast : UInt8 := 0xC0
def instanceOf : UInt8 := 0xC1
def wide : UInt8 := 0xC4
def multiNewArray : UInt8 := 0xC5
def gotoW : UInt8 := 0xC8
def jsrW : UInt8 := 0xC9

/-! ## Classes -/

/-- Whether a code lies between two others, both included. -/
def between (low high op : UInt8) : Bool :=
  low ≤ op && op ≤ high

/-- Codes without operands. -/
def isSimple (op : UInt8) : Bool :=
  between 0x00 0x0F op || between 0x2E 0x35 op || between 0x4F 0x83 op || between 0x85 0x98 op ||
    between 0xAC 0xB1 op || between 0xBE 0xBF op || between 0xC2 0xC3 op

/-- Codes with a local variable's index: the long loads and stores, and `ret`. -/
def isVariable (op : UInt8) : Bool :=
  between 0x15 0x19 op || between 0x36 0x3A op || op == 0xA9

/-- Codes with a 16-bit branch distance. -/
def isJump (op : UInt8) : Bool :=
  between 0x99 0xA8 op || between 0xC6 0xC7 op

/-- Jumps that have a form with a 32-bit distance. -/
def isWidenable (op : UInt8) : Bool :=
  op == goto || op == jsr

/-- Codes of field accesses. -/
def isField (op : UInt8) : Bool :=
  between 0xB2 0xB5 op

/-- Codes of method calls that take nothing but a method reference. -/
def isMethod (op : UInt8) : Bool :=
  between 0xB6 0xB8 op

/-- Codes that take a class. -/
def isType (op : UInt8) : Bool :=
  op == new || op == anewArray || op == checkCast || op == instanceOf

/-! ## Compact forms -/

/-- The long form and the index that a compact load or store stands for. -/
def expandCompact? (op : UInt8) : Option (UInt8 × UInt16) :=
  let expand (first long : UInt8) :=
    let n := op - first
    (long + n / 4, (n % 4).toUInt16)
  if between 0x1A 0x2D op then some (expand 0x1A 0x15)
  else if between 0x3B 0x4E op then some (expand 0x3B 0x36)
  else none

/-- The compact form of a long load or store with a small index. -/
def compact? (op : UInt8) (index : UInt16) : Option UInt8 :=
  if 3 < index then none
  else if between 0x15 0x19 op then some (0x1A + (op - 0x15) * 4 + index.toUInt8)
  else if between 0x36 0x3A op then some (0x3B + (op - 0x36) * 4 + index.toUInt8)
  else none

end ClassWeaver.Opcode
