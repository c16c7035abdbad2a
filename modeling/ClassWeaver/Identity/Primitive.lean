/-!
# Primitive types

The eight value types of the virtual machine and `void`, with their two spellings (source keyword and
descriptor letter) and the number of stack or local slots a value takes. Both spellings are injective:
`ofKeyword?_keyword` and `ofLetter?_letter`.
-/

namespace ClassWeaver.Identity

/-- A primitive type of the virtual machine, `void` included. -/
inductive Primitive
  | boolean | byte | char | short | int | long | float | double | void
  deriving DecidableEq, Repr

namespace Primitive

/-- All primitive types, in the order of their declaration. -/
def all : List Primitive :=
  [boolean, byte, char, short, int, long, float, double, void]

/-- The source keyword. -/
def keyword : Primitive → String
  | boolean => "boolean"
  | byte => "byte"
  | char => "char"
  | short => "short"
  | int => "int"
  | long => "long"
  | float => "float"
  | double => "double"
  | void => "void"

/-- The letter that stands for the type in a descriptor. -/
def letter : Primitive → Char
  | boolean => 'Z'
  | byte => 'B'
  | char => 'C'
  | short => 'S'
  | int => 'I'
  | long => 'J'
  | float => 'F'
  | double => 'D'
  | void => 'V'

/-- The name of the type as a constructor of a type tag. -/
def tagName : Primitive → String
  | boolean => "Boolean"
  | byte => "Byte"
  | char => "Char"
  | short => "Short"
  | int => "Int"
  | long => "Long"
  | float => "Float"
  | double => "Double"
  | void => "Void"

/-- The type with the given keyword. -/
def ofKeyword? (text : String) : Option Primitive :=
  all.find? (·.keyword == text)

/-- The type with the given descriptor letter. -/
def ofLetter? (c : Char) : Option Primitive :=
  all.find? (·.letter == c)

/-- Slots of the operand stack or of the local variables that a value takes. -/
def slots : Primitive → Nat
  | long | double => 2
  | void => 0
  | _ => 1

/-! ## The two spellings read back -/

@[simp] theorem ofKeyword?_keyword (p : Primitive) : ofKeyword? p.keyword = some p := by
  cases p <;> decide

@[simp] theorem ofLetter?_letter (p : Primitive) : ofLetter? p.letter = some p := by
  cases p <;> decide

theorem keyword_of_ofKeyword? {text : String} {p : Primitive} (h : ofKeyword? text = some p) :
    p.keyword = text := by
  simpa using List.find?_some h

theorem letter_of_ofLetter? {c : Char} {p : Primitive} (h : ofLetter? c = some p) : p.letter = c := by
  simpa using List.find?_some h

end Primitive

end ClassWeaver.Identity
