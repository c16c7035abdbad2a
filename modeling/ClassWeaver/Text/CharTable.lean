import ClassWeaver.Bytes.Hex
import ClassWeaver.Text.Split
import Std.Data.TreeMap

/-!
# Tables of characters

Properties of characters that a standard lists rather than defines. A table is written in lines of spans between
blanks, each a code point or the first and the last one in hexadecimal digits. Behind a slash stands how far apart the
characters of a span are, and behind a colon what belongs to the first of them, as numbers between points.

## Contents

* `CharSpan`, `CharTable.ofLines` — a table and its spelling.
* `CharTable.contains`, `CharTable.values?` — looking a character up.
-/

namespace ClassWeaver.Text

/-- Characters at equal distances, up to the last one, and what belongs to the first of them. -/
structure CharSpan where
  last : Nat
  step : Nat
  values : List Nat

/-- Spans under their first code points. No two of them overlap. -/
abbrev CharTable :=
  Std.TreeMap Nat CharSpan

namespace CharTable

/-! ## Spelling -/

/-- The span that a word of a table spells. -/
def span? (word : List Char) : Option (Nat × CharSpan) := do
  let (key, values) := match split ':' word with
    | [key, values] => (key, split '.' values)
    | _ => (word, [])
  let (range, step) := match split '/' key with
    | [range, step] => (range, step)
    | _ => (key, ['1'])
  let ends ← (split '-' range).mapM Bytes.hexNumber?
  let first ← ends.head?
  let last ← ends.getLast?
  return (first, ⟨last, ← Bytes.hexNumber? step, ← values.mapM Bytes.hexNumber?⟩)

/-- The table that lines of words spell. -/
def ofLines (lines : List String) : CharTable :=
  let words := lines.flatMap fun line => split ' ' line.toList
  (words.filterMap span?).foldl (fun t (first, span) => t.insert first span) ∅

/-! ## Look-up -/

/-- The span of a character and how far behind the first one it stands. -/
def find? (t : CharTable) (c : Char) : Option (CharSpan × Nat) :=
  match t.getEntryLE? c.toNat with
  | none => none
  | some (first, span) =>
    if c.toNat ≤ span.last && (c.toNat - first) % span.step == 0 then some (span, c.toNat - first) else none

/-- Whether a character is in the table. -/
def contains (t : CharTable) (c : Char) : Bool :=
  (t.find? c).isSome

/-- What belongs to all characters of a span alike. -/
def values? (t : CharTable) (c : Char) : Option (List Nat) :=
  (t.find? c).map fun (span, _) => span.values

/-- What belongs to a character if it moves along with the character within a span. -/
def shifted? (t : CharTable) (c : Char) : Option (List Char) :=
  (t.find? c).map fun (span, distance) => span.values.map fun n => Char.ofNat (n + distance)

end CharTable

end ClassWeaver.Text
