import ClassWeaver.Code.Opcode
import ClassWeaver.Identity.TypeDescriptor

/-!
# Instructions

The instructions of a method body, over the type `π` of positions they refer to. `Instruction Nat` refers to
byte offsets, `Instruction Label` to symbolic labels. Forms that differ in width only (`ldc` and `ldc_w`, short
and `wide` variables, `goto` and `goto_w`) are one instruction.

## Contents

* `Instruction`, `positions`, `map`, `mapM` — the data and its positions, in the order of their use.
* `loadOf`, `returnOf`, `ofInt?`, `toInt?` — the instruction for a type or a number.
-/

namespace ClassWeaver

/-- A symbolic position in a method body. -/
structure Label where
  id : Nat
  deriving DecidableEq, Repr

/-- An instruction, or the mark of a position. -/
inductive Instruction (π : Type)
  | mark (position : π)
  /-- An operation without operands. -/
  | simple (op : UInt8)
  /-- `bipush` or `sipush`. -/
  | push (op : UInt8) (value : Int16)
  /-- `ldc`, or `ldc2_w` when the constant takes two slots. -/
  | constant (index : UInt16) (twoSlots : Bool)
  /-- A load, a store or `ret`. -/
  | localVar (op : UInt8) (index : UInt16)
  | increment (index : UInt16) (delta : Int16)
  | jump (op : UInt8) (target : π)
  | tableSwitch (otherwise : π) (low high : Int32) (targets : List π)
  | lookupSwitch (otherwise : π) (pairs : List (Int32 × π))
  | field (op : UInt8) (index : UInt16)
  | method (op : UInt8) (index : UInt16)
  | invokeInterface (index : UInt16) (count : UInt8)
  | invokeDynamic (index : UInt16)
  /-- `new`, `anewarray`, `checkcast` or `instanceof`. -/
  | type (op : UInt8) (index : UInt16)
  | newArray (elements : UInt8)
  | multiNewArray (index : UInt16) (dimensions : UInt8)
  deriving DecidableEq, Repr

namespace Instruction

variable {π ρ ε : Type}

/-- The positions an instruction mentions, a switch's default first. -/
def positions : Instruction π → List π
  | mark p => [p]
  | jump _ p => [p]
  | tableSwitch d _ _ ts => d :: ts
  | lookupSwitch d ps => d :: ps.map Prod.snd
  | _ => []

/-- The instruction with every position renamed. -/
def map (f : π → ρ) : Instruction π → Instruction ρ
  | mark p => mark (f p)
  | simple op => simple op
  | push op value => push op value
  | constant index twoSlots => constant index twoSlots
  | localVar op index => localVar op index
  | increment index delta => increment index delta
  | jump op p => jump op (f p)
  | tableSwitch d low high ts => tableSwitch (f d) low high (ts.map f)
  | lookupSwitch d ps => lookupSwitch (f d) (ps.map fun (key, p) => (key, f p))
  | field op index => field op index
  | method op index => method op index
  | invokeInterface index count => invokeInterface index count
  | invokeDynamic index => invokeDynamic index
  | type op index => type op index
  | newArray elements => newArray elements
  | multiNewArray index dimensions => multiNewArray index dimensions

/-- The instruction with every position looked up; the first failing look-up, in the order of use, is the
result's. -/
def mapM (f : π → Except ε ρ) : Instruction π → Except ε (Instruction ρ)
  | mark p => mark <$> f p
  | jump op p => jump op <$> f p
  | tableSwitch d low high ts => do
    let d ← f d
    let ts ← ts.mapM f
    return tableSwitch d low high ts
  | lookupSwitch d ps => do
    let d ← f d
    let ps ← ps.mapM fun (key, p) => return (key, ← f p)
    return lookupSwitch d ps
  | simple op => return simple op
  | push op value => return push op value
  | constant index twoSlots => return constant index twoSlots
  | localVar op index => return localVar op index
  | increment index delta => return increment index delta
  | field op index => return field op index
  | method op index => return method op index
  | invokeInterface index count => return invokeInterface index count
  | invokeDynamic index => return invokeDynamic index
  | type op index => return type op index
  | newArray elements => return newArray elements
  | multiNewArray index dimensions => return multiNewArray index dimensions

/-! ## Instructions for types and numbers -/

open Identity (TypeDescriptor)

/-- Loads a value of the given type from a local variable. -/
def loadOf (type : TypeDescriptor) (index : UInt16) : Instruction π :=
  match type.primitive? with
  | some .long => localVar Opcode.lload index
  | some .float => localVar Opcode.fload index
  | some .double => localVar Opcode.dload index
  | some _ => localVar Opcode.iload index
  | none => localVar Opcode.aload index

/-- Returns a value of the given type. -/
def returnOf (type : TypeDescriptor) : Instruction π :=
  match type.primitive? with
  | some .void => simple Opcode.voidReturn
  | some .long => simple Opcode.lreturn
  | some .float => simple Opcode.freturn
  | some .double => simple Opcode.dreturn
  | some _ => simple Opcode.ireturn
  | none => simple Opcode.areturn

/-- The smallest instruction that pushes a number, if the number needs no constant. -/
def ofInt? (n : Int) : Option (Instruction π) :=
  if -1 ≤ n ∧ n ≤ 5 then some (simple (UInt8.ofNat (n + 3).toNat))
  else if -128 ≤ n ∧ n ≤ 127 then some (push Opcode.bipush (Int16.ofInt n))
  else if -32768 ≤ n ∧ n ≤ 32767 then some (push Opcode.sipush (Int16.ofInt n))
  else none

/-- The number that an instruction pushes without the help of a constant. -/
def toInt? : Instruction π → Option Int
  | simple op => if Opcode.between 0x02 0x08 op then some (op.toNat - 3) else none
  | push _ value => some value.toInt
  | _ => none

end Instruction

end ClassWeaver
