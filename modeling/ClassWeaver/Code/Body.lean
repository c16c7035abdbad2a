import ClassWeaver.ClassFile.Structure
import ClassWeaver.Code.Frame

/-!
# Method bodies

A method body as a list of instructions with marks for the positions that other parts refer to, so that
instructions can be put in, taken out and replaced without any offset to keep right. Labels are numbers handed
out one after the other.

## Contents

* `Handler`, `LineEntry`, `VariableEntry` — the tables of a body, over positions `π`.
* `MethodBody`, `empty`, `newLabel` — a body over labels, and fresh labels.
-/

namespace ClassWeaver

/-- A range of instructions and where exceptions thrown in it are handled. -/
structure Handler (π : Type) where
  start : π
  stop : π
  handler : π
  /-- The index of the class of the exceptions, or 0 for all of them. -/
  catchType : UInt16
  deriving DecidableEq, Repr

/-- The source line of the instructions from a position on. -/
structure LineEntry (π : Type) where
  start : π
  line : UInt16
  deriving DecidableEq, Repr

/-- The name and type of a local variable in a range of instructions. -/
structure VariableEntry (π : Type) where
  start : π
  stop : π
  nameIndex : UInt16
  /-- The index of the descriptor, or of the signature in a table of generic types. -/
  typeIndex : UInt16
  index : UInt16
  deriving DecidableEq, Repr

variable {π ρ : Type}

/-- The positions a handler mentions. -/
def Handler.positions (h : Handler π) : List π :=
  [h.start, h.stop, h.handler]

/-- The handler with every position renamed. -/
def Handler.map (f : π → ρ) (h : Handler π) : Handler ρ :=
  ⟨f h.start, f h.stop, f h.handler, h.catchType⟩

/-- The line entry with its position renamed. -/
def LineEntry.map (f : π → ρ) (l : LineEntry π) : LineEntry ρ :=
  ⟨f l.start, l.line⟩

/-- The positions a variable entry mentions. -/
def VariableEntry.positions (v : VariableEntry π) : List π :=
  [v.start, v.stop]

/-- The variable entry with every position renamed. -/
def VariableEntry.map (f : π → ρ) (v : VariableEntry π) : VariableEntry ρ :=
  ⟨f v.start, f v.stop, v.nameIndex, v.typeIndex, v.index⟩

/-- A method body over labels. -/
structure MethodBody where
  maxStack : UInt16
  maxLocals : UInt16
  instructions : List (Instruction Label)
  handlers : List (Handler Label)
  lines : List (LineEntry Label)
  variableRows : List (VariableEntry Label)
  variableTypes : List (VariableEntry Label)
  /-- The stack-map frames, if the body has a table of them. -/
  frames : Option (List (Frame Label))
  /-- Attributes that are carried along as they are. -/
  attributes : List Attribute
  /-- The number of the next fresh label. -/
  nextLabel : Nat
  deriving DecidableEq

namespace MethodBody

/-- The body without instructions. -/
def empty (maxStack maxLocals : UInt16) : MethodBody :=
  ⟨maxStack, maxLocals, [], [], [], [], [], none, [], 0⟩

/-- A fresh label. -/
def newLabel (b : MethodBody) : Label × MethodBody :=
  (⟨b.nextLabel⟩, { b with nextLabel := b.nextLabel + 1 })

end MethodBody

end ClassWeaver
