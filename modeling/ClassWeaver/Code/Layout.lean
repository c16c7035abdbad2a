import ClassWeaver.Code.Listing

/-!
# Layouts

Where the bytes of each instruction go. A jump with a 16-bit distance may not reach its target; `goto` and `jsr`
then take their long form, which moves what follows and may put other targets out of reach, so layouts are made
in rounds until no jump has to be lengthened. Every round but the last lengthens a jump, so one round more than
there are such jumps is enough.

Offsets are counted in 32 bits, and behind the last of these numbers the count starts again at zero. Where arithmetic is
checked it stops there instead, so the two ways of counting give the same layouts below 2³² bytes.

## Contents

* `Instruction.size` — the bytes an instruction takes.
* `Layout.wrap` — what 32 bits keep of an offset.
* `Layout`, `Layout.of` — the offsets for a given choice of long jumps.
* `Layout.lengthen` — the jumps that have to be long.
* `Layout.rounds`, `MethodBody.layout` — the choice that suffices.
-/

namespace ClassWeaver

/-- Whether a number fits in a signed byte. -/
def fitsInByte (n : Int) : Bool :=
  -128 ≤ n && n ≤ 127

/-- Whether a number fits in a signed 16-bit number. -/
def fitsInWord (n : Int) : Bool :=
  -32768 ≤ n && n ≤ 32767

/-- The bytes that an instruction takes at an offset; `long` chooses the long form of a jump. -/
def Instruction.size {π : Type} (offset : Nat) (long : Bool) : Instruction π → Nat
  | mark _ => 0
  | simple _ => 1
  | push op _ => if op = Opcode.bipush then 2 else 3
  | constant index twoSlots => if !twoSlots && index < 256 then 2 else 3
  | localVar op index => if (Opcode.compact? op index).isSome then 1 else if index < 256 then 2 else 4
  | increment index delta => if index < 256 && fitsInByte delta.toInt then 3 else 6
  | jump _ _ => if long then 5 else 3
  | tableSwitch _ _ _ targets => 1 + switchPadding offset + 12 + 4 * targets.length
  | lookupSwitch _ pairs => 1 + switchPadding offset + 8 + 8 * pairs.length
  | field _ _ | method _ _ | type _ _ => 3
  | invokeInterface _ _ | invokeDynamic _ => 5
  | newArray _ => 2
  | multiNewArray _ _ => 4

/-- Whether an instruction is a jump with a long form. -/
def Instruction.isWidenable {π : Type} : Instruction π → Bool
  | jump op _ => Opcode.isWidenable op
  | _ => false

/-- An instruction at its offset, with the choice of its form. -/
structure PlacedInstruction where
  offset : Nat
  long : Bool
  instruction : Instruction Label

/-- The offsets of instructions and labels, for one choice of long jumps. -/
structure Layout where
  steps : List PlacedInstruction
  /-- The offset of each label that is placed, by the label's number. -/
  labels : Std.TreeMap Nat Nat
  /-- The number of bytes of the code array. -/
  length : Nat

namespace Layout

/-- What 32 bits keep of an offset. -/
def wrap (offset : Nat) : Nat :=
  offset % 4294967296

/-- The offset of a label. -/
def offsetOf (l : Layout) (label : Label) : Except Defect Nat :=
  match l.labels[label.id]? with
  | some offset => .ok offset
  | none => .error (.unplacedLabel label.id)

/-- The labels placed by a mark at an offset; the last mark of a label counts. -/
def placeMark (labels : Std.TreeMap Nat Nat) (offset : Nat) : Instruction Label → Std.TreeMap Nat Nat
  | .mark label => labels.insert label.id offset
  | _ => labels

/-- Places instructions one after the other from an offset on. -/
def placeFrom (steps : List PlacedInstruction) (labels : Std.TreeMap Nat Nat) (offset : Nat) :
    List (Instruction Label × Bool) → Layout
  | [] => ⟨steps.reverse, labels, offset⟩
  | (i, long) :: rest =>
    placeFrom (⟨offset, long, i⟩ :: steps) (placeMark labels offset i) (wrap (offset + i.size offset long)) rest

/-- The layout of instructions with the given choice of long jumps. -/
def of (instructions : List (Instruction Label)) (long : List Bool) : Layout :=
  placeFrom [] ∅ 0 (instructions.zip long)

/-- Whether an instruction has to be long: it is already, or its target is out of reach. A target out of reach of
a jump without a long form is an error. -/
def needsLong (l : Layout) (s : PlacedInstruction) : Except Defect Bool :=
  if s.long then .ok true
  else
    match s.instruction with
    | .jump op target =>
      match l.offsetOf target with
      | .error e => .error e
      | .ok offset =>
        let distance := (offset : Int) - s.offset
        if fitsInWord distance then .ok false
        else if Opcode.isWidenable op then .ok true
        else .error (.branchOverflow distance)
    | _ => .ok false

/-- The instructions that have to be long. -/
def lengthen (l : Layout) : Except Defect (List Bool) :=
  l.steps.mapM l.needsLong

/-- Lays instructions out in at most `fuel` rounds, starting with the given choice of long jumps. -/
def rounds (instructions : List (Instruction Label)) : (fuel : Nat) → List Bool → Option (Except Defect Layout)
  | 0, _ => none
  | fuel + 1, long =>
    let l := of instructions long
    match l.lengthen with
    | .error e => some (.error e)
    | .ok next => if next = long then some (.ok l) else rounds instructions fuel next

end Layout

/-- Lays the body out, with every jump short to begin with. -/
def MethodBody.layout (b : MethodBody) : Except Defect Layout :=
  let rounds := b.instructions.countP Instruction.isWidenable + 1
  (Layout.rounds b.instructions rounds (b.instructions.map fun _ => false)).getD (.error (.codeTooLarge 0))

end ClassWeaver
