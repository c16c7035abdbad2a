import ClassWeaver.ClassFile.Defect

/-!
# Access flags

The flag words of classes and members, with the one edit the library makes of them: opening a member to
everyone.
-/

namespace ClassWeaver

/-- A flag word. -/
structure AccessFlags where
  bits : UInt16
  deriving DecidableEq, Repr

namespace AccessFlags

/-- The flag of public members. -/
def publicBit : AccessFlags := ⟨0x0001⟩

/-- The flag of private members. -/
def privateBit : AccessFlags := ⟨0x0002⟩

/-- The flag of protected members. -/
def protectedBit : AccessFlags := ⟨0x0004⟩

/-- The flag of static members. -/
def staticBit : AccessFlags := ⟨0x0008⟩

/-- The flag of methods implemented outside the virtual machine. -/
def nativeBit : AccessFlags := ⟨0x0100⟩

/-- The flag of interfaces. -/
def interfaceBit : AccessFlags := ⟨0x0200⟩

/-- The flag of methods without a body. -/
def abstractBit : AccessFlags := ⟨0x0400⟩

/-- The flags of either word. -/
def union (a b : AccessFlags) : AccessFlags :=
  ⟨a.bits ||| b.bits⟩

/-- The flags of `a` that are not in `b`. -/
def without (a b : AccessFlags) : AccessFlags :=
  ⟨a.bits &&& ~~~b.bits⟩

/-- Whether `a` has every flag of `b`. -/
def contains (a b : AccessFlags) : Bool :=
  a.bits &&& b.bits == b.bits

/-- Public, and neither private nor protected. -/
def widened (a : AccessFlags) : AccessFlags :=
  (a.without (.union .privateBit .protectedBit)).union .publicBit

/-- The flag word as shown to a reader of diagnostics. -/
def display (a : AccessFlags) : String :=
  s!"AccessFlags(0x{Bytes.hexDigits 4 a.bits.toNat})"

end AccessFlags

end ClassWeaver
