import ClassWeaver.Identity.InternTable

/-!
# Field and method descriptors

The identity of a member inside its class: name, types and whether it is static. A field's type and a method's
arguments are never `void`, and a name holds none of the characters that separate names elsewhere; both rules
are part of the types.

## Contents

* `isMemberName` — the names that members may have.
* `FieldDescriptor`, `MethodDescriptor` — checked by `mk?`, rendered by `descriptor` and `display`.
* `MethodDescriptor.parse` — reading a binary method descriptor.
* `InternTable.methodTypes` — the same reading through the intern table.
-/

namespace ClassWeaver.Identity

open ClassWeaver.Text

/-- Whether a character may stand in an ordinary member name. -/
def isMemberChar (c : Char) : Bool :=
  !(c == '.' || c == ';' || c == '[' || c == '/' || c == '<' || c == '>' || isBlank c)

/-- Whether a text names a member; the two names in angle brackets belong to constructors and class set-up. -/
def isMemberName (name : String) : Bool :=
  name == "<init>" || name == "<clinit>" || (!name.toList.isEmpty && name.toList.all isMemberChar)

/-- What a rendering of a static member starts with. -/
def staticMark (isStatic : Bool) : String :=
  if isStatic then "static " else ""

/-! ## Fields -/

/-- The identity of a field. -/
structure FieldDescriptor where
  name : String
  type : TypeDescriptor
  isStatic : Bool
  name_ok : isMemberName name = true ∧ name.toList.head? ≠ some '<'
  not_void : type.isVoid = false
  deriving DecidableEq

namespace FieldDescriptor

/-- Checks the name, then the type. -/
def mk? (name : String) (type : TypeDescriptor) (isStatic : Bool) : Except Violation FieldDescriptor :=
  if hn : isMemberName name = true ∧ name.toList.head? ≠ some '<' then
    if hv : type.isVoid = false then .ok ⟨name, type, isStatic, hn, hv⟩
    else .error (.voidType (.field name))
  else .error (.invalidDescriptor name)

/-- The binary descriptor of the field's type. -/
def descriptor (f : FieldDescriptor) : String :=
  f.type.descriptor

/-- Slots that a value of the field takes. -/
def slots (f : FieldDescriptor) : Nat :=
  f.type.slots

/-- The field as shown to a reader. -/
def display (f : FieldDescriptor) : String :=
  staticMark f.isStatic ++ f.type.name ++ " " ++ f.name

end FieldDescriptor

/-! ## Methods -/

/-- The identity of a method. -/
structure MethodDescriptor where
  name : String
  arguments : List TypeDescriptor
  returnType : TypeDescriptor
  isStatic : Bool
  name_ok : isMemberName name = true
  not_void : arguments.any TypeDescriptor.isVoid = false
  deriving DecidableEq

/-- Reading a field type uses up some of the text. -/
theorem TypeDescriptor.length_lt_of_parseFieldType {input rest : List Char} {d : TypeDescriptor}
    (h : parseFieldType input = .ok (d, rest)) : rest.length < input.length := by
  have hle : (input.dropWhile (· == '[')).length ≤ input.length :=
    (List.dropWhile_sublist _).length_le
  unfold parseFieldType at h
  by_cases hd : (input.takeWhile (· == '[')).length < 256
  · simp only [hd, ↓reduceDIte] at h
    split at h
    · simp at h
    · next tag body hb =>
      rw [hb] at hle
      simp only [List.length_cons] at hle
      split at h
      · split at h
        · simp at h
        · next c after hs =>
          have hb : (body.dropWhile (· != ';')).length ≤ body.length :=
            (List.dropWhile_sublist _).length_le
          rw [hs, List.length_cons] at hb
          split at h
          · cases h
            omega
          · simp at h
      · split at h
        · simp at h
        · split at h
          · simp at h
          · cases h
            omega
  · simp [hd] at h

namespace MethodDescriptor

/-- Checks the name, then the arguments. -/
def mk? (name : String) (arguments : List TypeDescriptor) (returnType : TypeDescriptor) (isStatic : Bool) :
    Except Violation MethodDescriptor :=
  if hn : isMemberName name = true then
    if hv : arguments.any TypeDescriptor.isVoid = false then
      .ok ⟨name, arguments, returnType, isStatic, hn, hv⟩
    else .error (.voidType (.argument name))
  else .error (.invalidDescriptor name)

/-- Reads argument types up to the closing parenthesis and returns what follows it; `whole` is the descriptor
that a missing parenthesis is reported with. -/
def parseArguments (whole : String) (read : List TypeDescriptor) (input : List Char) :
    Except Violation (List TypeDescriptor × List Char) :=
  match input with
  | [] => .error (.invalidDescriptor whole)
  | c :: rest =>
    if c == ')' then .ok (read.reverse, rest)
    else
      match _h : TypeDescriptor.parseFieldType (c :: rest) with
      | .error v => .error v
      | .ok (type, after) => parseArguments whole (type :: read) after
  termination_by input.length
  decreasing_by exact TypeDescriptor.length_lt_of_parseFieldType (by assumption)

/-- Reads a binary method descriptor for the method of the given name. -/
def parse (name descriptor : String) (isStatic : Bool) : Except Violation MethodDescriptor :=
  match descriptor.toList with
  | '(' :: input => do
    let (arguments, rest) ← parseArguments descriptor [] input
    let returnType ← TypeDescriptor.ofDescriptor (String.ofList rest)
    mk? name arguments returnType isStatic
  | _ => .error (.invalidDescriptor descriptor)

/-- The binary descriptor. -/
def descriptor (m : MethodDescriptor) : String :=
  String.ofList ('(' :: (m.arguments.flatMap TypeDescriptor.descriptorChars ++
    ')' :: m.returnType.descriptorChars))

/-- Slots that the arguments take, the receiver not counted. -/
def argumentSlots (m : MethodDescriptor) : UInt16 :=
  UInt16.ofNat ((m.arguments.map TypeDescriptor.slots).foldr (· + ·) 0)

/-- Whether two methods agree in name and arguments. -/
def sameSignature (a b : MethodDescriptor) : Bool :=
  a.name == b.name && a.arguments == b.arguments

/-- The method as shown to a reader. -/
def display (m : MethodDescriptor) : String :=
  staticMark m.isStatic ++ m.returnType.name ++ " " ++ m.name ++ "(" ++
    ", ".intercalate (m.arguments.map TypeDescriptor.name) ++ ")"

end MethodDescriptor

/-! ## Through the intern table -/

namespace InternTable

/-- Reads argument types up to the closing parenthesis; what was read in front of an error stays interned. -/
def arguments (t : InternTable) (whole : String) (read : List Entry) (input : List Char) :
    Except Violation (List Entry × List Char) × InternTable :=
  match input with
  | [] => (.error (.invalidDescriptor whole), t)
  | c :: rest =>
    if c == ')' then (.ok (read.reverse, rest), t)
    else
      match _h : TypeDescriptor.parseFieldType (c :: rest) with
      | .error v => (.error v, t)
      | .ok (type, after) =>
        let (e, t) := t.intern type
        arguments t whole (e :: read) after
  termination_by input.length
  decreasing_by exact TypeDescriptor.length_lt_of_parseFieldType (by assumption)

/-- Reads the argument types and the return type of a binary method descriptor. -/
def methodTypes (t : InternTable) (descriptor : String) :
    Except Violation (List Entry × Entry) × InternTable :=
  match descriptor.toList with
  | '(' :: input =>
    match t.arguments descriptor [] input with
    | (.error v, t) => (.error v, t)
    | (.ok (args, rest), t) =>
      match t.ofDescriptor (String.ofList rest) with
      | (.error v, t) => (.error v, t)
      | (.ok ret, t) => (.ok (args, ret), t)
  | _ => (.error (.invalidDescriptor descriptor), t)

end InternTable

end ClassWeaver.Identity
