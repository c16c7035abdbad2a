/-!
# Blank characters and trimming

The characters with the Unicode property `White_Space`, and the text between the blanks at both ends of a
text. Names, versions and manifest lines are judged after trimming, so this table decides what counts as
empty in all of them.

## Contents

* `isBlank` — membership in the property's table.
* `trimChars`, `trim` — a text without the blanks at its two ends.
* `isBlankText` — nothing but blanks.
-/

namespace ClassWeaver.Text

/-- The property `White_Space`: 25 characters in ten ranges. -/
def blankRanges : List (Nat × Nat) :=
  [(0x09, 0x0D), (0x20, 0x20), (0x85, 0x85), (0xA0, 0xA0), (0x1680, 0x1680), (0x2000, 0x200A),
    (0x2028, 0x2029), (0x202F, 0x202F), (0x205F, 0x205F), (0x3000, 0x3000)]

/-- Whether a character has the property `White_Space`. -/
def isBlank (c : Char) : Bool :=
  blankRanges.any fun (low, high) => low ≤ c.toNat && c.toNat ≤ high

/-- The characters left after dropping the blanks at both ends. -/
def trimChars (cs : List Char) : List Char :=
  ((cs.dropWhile isBlank).reverse.dropWhile isBlank).reverse

/-- The text left after dropping the blanks at both ends. -/
def trim (s : String) : String :=
  String.ofList (trimChars s.toList)

/-- Whether a text holds nothing but blanks. -/
def isBlankText (s : String) : Bool :=
  s.toList.all isBlank

/-- A text without blanks at its ends is its own trimmed form. -/
theorem trimChars_eq_self {cs : List Char} (first : ∀ c, cs.head? = some c → isBlank c = false)
    (last : ∀ c, cs.reverse.head? = some c → isBlank c = false) : trimChars cs = cs := by
  have keep : ∀ l : List Char, (∀ c, l.head? = some c → isBlank c = false) → l.dropWhile isBlank = l := by
    intro l h
    cases l with
    | nil => rfl
    | cons c r => simp [List.dropWhile, h c rfl]
  rw [trimChars, keep cs first, keep _ last, List.reverse_reverse]

end ClassWeaver.Text
