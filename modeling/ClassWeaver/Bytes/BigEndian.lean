/-!
# Big-endian numbers

The byte layout of the numbers in class data: the most significant byte first, signed numbers in two's
complement. Each width has a pair of functions between the number and its bytes.
-/

namespace ClassWeaver.Bytes

/-! ## Numbers from bytes -/

/-- The 16-bit number with the given bytes. -/
def word (a b : UInt8) : UInt16 :=
  UInt16.ofNat (a.toNat * 256 + b.toNat)

/-- The 32-bit number with the given bytes. -/
def doubleWord (a b c d : UInt8) : UInt32 :=
  UInt32.ofNat (((a.toNat * 256 + b.toNat) * 256 + c.toNat) * 256 + d.toNat)

/-- The 64-bit number with the given halves. -/
def quadWord (high low : UInt32) : UInt64 :=
  UInt64.ofNat (high.toNat * 4294967296 + low.toNat)

/-! ## Bytes of numbers -/

/-- The two bytes of a 16-bit number. -/
def u16 (n : UInt16) : List UInt8 :=
  [UInt8.ofNat (n.toNat / 256), UInt8.ofNat n.toNat]

/-- The four bytes of a 32-bit number. -/
def u32 (n : UInt32) : List UInt8 :=
  [UInt8.ofNat (n.toNat / 16777216), UInt8.ofNat (n.toNat / 65536), UInt8.ofNat (n.toNat / 256),
    UInt8.ofNat n.toNat]

/-- The eight bytes of a 64-bit number. -/
def u64 (n : UInt64) : List UInt8 :=
  u32 (UInt32.ofNat (n.toNat / 4294967296)) ++ u32 (UInt32.ofNat n.toNat)

/-- The two bytes of a signed 16-bit number. -/
def i16 (n : Int16) : List UInt8 :=
  u16 n.toUInt16

/-- The four bytes of a signed 32-bit number. -/
def i32 (n : Int32) : List UInt8 :=
  u32 n.toUInt32

/-- The eight bytes of a signed 64-bit number. -/
def i64 (n : Int64) : List UInt8 :=
  u64 n.toUInt64

/-- A count or an offset in two bytes; higher bits are dropped. -/
def count16 (n : Nat) : List UInt8 :=
  u16 (UInt16.ofNat n)

/-- A byte run behind its length in four bytes. -/
def sized (bytes : List UInt8) : List UInt8 :=
  u32 (UInt32.ofNat bytes.length) ++ bytes

/-! ## The pairs are inverse -/

@[simp] theorem word_div_mod (n : UInt16) : word (UInt8.ofNat (n.toNat / 256)) (UInt8.ofNat n.toNat) = n := by
  have := n.toNat_lt
  apply UInt16.toNat.inj
  simp only [word, UInt8.toNat_ofNat', UInt16.toNat_ofNat']
  omega

theorem u16_word (a b : UInt8) : u16 (word a b) = [a, b] := by
  have ha := a.toNat_lt
  have hb := b.toNat_lt
  simp only [u16, word, List.cons.injEq, and_true]
  constructor <;>
  · apply UInt8.toNat.inj
    simp only [UInt16.toNat_ofNat', UInt8.toNat_ofNat']
    omega

theorem u32_doubleWord (a b c d : UInt8) : u32 (doubleWord a b c d) = [a, b, c, d] := by
  have ha := a.toNat_lt
  have hb := b.toNat_lt
  have hc := c.toNat_lt
  have hd := d.toNat_lt
  simp only [u32, doubleWord, List.cons.injEq, and_true]
  refine ⟨?_, ?_, ?_, ?_⟩ <;>
  · apply UInt8.toNat.inj
    simp only [UInt32.toNat_ofNat', UInt8.toNat_ofNat']
    omega

end ClassWeaver.Bytes
