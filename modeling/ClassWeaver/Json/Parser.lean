import ClassWeaver.Bytes.Hex
import ClassWeaver.Json.Rounding
import ClassWeaver.Json.Syntax

/-!
# Reading documents

A document is one value between blanks. Arrays and objects nest at most 127 deep, a key that occurs twice keeps
its last value, and a number beyond the largest double is refused, as are control characters in texts and
surrogates without a partner.

## Contents

* `digits`, `number?` — numbers.
* `text?` — quoted texts.
* `value?` — values, over fuel that every character pays for.
* `Json.parse?` — a whole document.
-/

namespace ClassWeaver.Json

/-- Whether a character may stand between the tokens of a document. -/
def isSpace (c : Char) : Bool :=
  c == ' ' || c == '\n' || c == '\r' || c == '\t'

/-- The text behind the blanks at its front. -/
def skipSpace (cs : List Char) : List Char :=
  cs.dropWhile isSpace

/-! ## Numbers -/

/-- The value of decimal digits. -/
def digitsValue (cs : List Char) : Nat :=
  cs.foldl (fun n c => n * 10 + (c.toNat - 48)) 0

/-- The digits at the front of a text, and what follows them. -/
def digits (cs : List Char) : List Char × List Char :=
  (cs.takeWhile Char.isDigit, cs.dropWhile Char.isDigit)

/-- The fraction at the front of a text, if there is one; a point needs a digit behind it. -/
def fraction? (cs : List Char) : Option (List Char × List Char) :=
  match cs with
  | '.' :: rest =>
    match digits rest with
    | ([], _) => none
    | found => some found
  | _ => some ([], cs)

/-- The exponent at the front of a text, if there is one. -/
def exponent? (cs : List Char) : Option (Option Int × List Char) :=
  match cs with
  | e :: rest =>
    if e == 'e' || e == 'E' then
      let (negative, rest) := match rest with
        | '-' :: r => (true, r)
        | '+' :: r => (false, r)
        | r => (false, r)
      match digits rest with
      | ([], _) => none
      | (ds, after) =>
        let n : Int := digitsValue ds
        some (some (if negative then -n else n), after)
    else some (none, cs)
  | [] => some (none, cs)

/-- A number with further digits behind it, for as long as it fits in 64 bits, and how many digits were left over. -/
def extend (n : Nat) : List Char → Nat × Nat
  | [] => (n, 0)
  | c :: rest =>
    let more := n * 10 + (c.toNat - 48)
    if more < Nat.pow 2 64 then extend more rest else (n, rest.length + 1)

/-- The double of a literal. Digits that do not fit in 64 bits count as zeros. -/
def double? (negative : Bool) (whole fraction : List Char) (exponent : Int) : Option Decimal :=
  let (n, dropped) := extend 0 whole
  let (n, unread) := extend n fraction
  Decimal.ofParts? negative n (exponent + dropped - (fraction.length - unread : Nat))

/-- The value of a literal. Integers that fit in 64 bits stay integers, but there is no negative zero among
them. -/
def numberValue? (negative : Bool) (whole fraction : List Char) (exponent : Option Int) : Option Json :=
  let n := digitsValue whole
  let integral := fraction.isEmpty && exponent.isNone
  if integral && !negative && n < Nat.pow 2 64 then some (integer n)
  else if integral && negative && 0 < n && n ≤ Nat.pow 2 63 then some (integer (-n))
  else decimal <$> double? negative whole fraction (exponent.getD 0)

/-- A number at the front of a text; the whole part has no superfluous zero. -/
def number? (cs : List Char) : Option (Json × List Char) := do
  let (negative, cs) := match cs with
    | '-' :: r => (true, r)
    | r => (false, r)
  let (whole, rest) := digits cs
  if whole.isEmpty || (whole.head? == some '0' && 1 < whole.length) then none
  else
    let (frac, rest) ← fraction? rest
    let (exp, rest) ← exponent? rest
    let value ← numberValue? negative whole frac exp
    return (value, rest)

/-! ## Texts -/

/-- The code unit that four hexadecimal digits spell. -/
def unit? (a b c d : Char) : Option Nat :=
  Bytes.hexNumber? [a, b, c, d]

/-- The character that a letter behind a backslash stands for. -/
def simpleEscape? (c : Char) : Option Char :=
  if c == '"' || c == '\\' || c == '/' then some c
  else if c == 'b' then some (Char.ofNat 8)
  else if c == 'f' then some (Char.ofNat 12)
  else if c == 'n' then some '\n'
  else if c == 'r' then some '\r'
  else if c == 't' then some '\t'
  else none

/-- The rest of a quoted text, behind the characters in `read`, the latest first. -/
def text? (read : List Char) : (fuel : Nat) → List Char → Option (String × List Char)
  | 0, _ => none
  | fuel + 1, cs =>
    match cs with
    | '"' :: rest => some (String.ofList read.reverse, rest)
    | '\\' :: 'u' :: a :: b :: c :: d :: rest =>
      match unit? a b c d with
      | none => none
      | some unit =>
        if unit < 0xD800 ∨ 0xE000 ≤ unit then text? (Char.ofNat unit :: read) fuel rest
        else if 0xDC00 ≤ unit then none
        else
          match rest with
          | '\\' :: 'u' :: a :: b :: c :: d :: rest =>
            match unit? a b c d with
            | some low =>
              if 0xDC00 ≤ low ∧ low < 0xE000 then
                text? (Char.ofNat (0x10000 + (unit - 0xD800) * 0x400 + (low - 0xDC00)) :: read) fuel rest
              else none
            | none => none
          | _ => none
    | '\\' :: c :: rest =>
      match simpleEscape? c with
      | some c => text? (c :: read) fuel rest
      | none => none
    | c :: rest => if c.toNat < 32 then none else text? (c :: read) fuel rest
    | [] => none

/-! ## Values -/

/-- The text behind a word at its front. -/
def word? (word : String) (value : Json) (cs : List Char) : Option (Json × List Char) :=
  if word.toList.isPrefixOf cs then some (value, cs.drop word.length) else none

mutual

/-- A value at the front of a text, which may nest `depth` deep. -/
def value? (depth : Nat) : (fuel : Nat) → List Char → Option (Json × List Char)
  | 0, _ => none
  | fuel + 1, cs =>
    match skipSpace cs with
    | [] => none
    | c :: rest =>
      if c == '"' then (text? [] fuel rest).map fun (s, after) => (string s, after)
      else if c == '[' then
        if depth = 0 then none
        else
          match skipSpace rest with
          | ']' :: after => some (array [], after)
          | rest => values? (depth - 1) [] fuel rest
      else if c == '\x7b' then
        if depth = 0 then none
        else
          match skipSpace rest with
          | '\x7d' :: after => some (object [], after)
          | rest => fields? (depth - 1) [] fuel rest
      else if c == 'n' then word? "null" null (c :: rest)
      else if c == 't' then word? "true" (bool true) (c :: rest)
      else if c == 'f' then word? "false" (bool false) (c :: rest)
      else number? (c :: rest)

/-- The rest of an array, behind the values in `read`, the latest first. -/
def values? (depth : Nat) (read : List Json) : (fuel : Nat) → List Char → Option (Json × List Char)
  | 0, _ => none
  | fuel + 1, cs =>
    match value? depth fuel cs with
    | none => none
    | some (v, rest) =>
      match skipSpace rest with
      | ',' :: rest => values? depth (v :: read) fuel rest
      | ']' :: rest => some (array (v :: read).reverse, rest)
      | _ => none

/-- The rest of an object, behind the fields in `read`. -/
def fields? (depth : Nat) (read : List (String × Json)) : (fuel : Nat) → List Char → Option (Json × List Char)
  | 0, _ => none
  | fuel + 1, cs =>
    match skipSpace cs with
    | '"' :: rest =>
      match text? [] fuel rest with
      | none => none
      | some (key, rest) =>
        match skipSpace rest with
        | ':' :: rest =>
          match value? depth fuel rest with
          | none => none
          | some (v, rest) =>
            match skipSpace rest with
            | ',' :: rest => fields? depth (insertField key v read) fuel rest
            | '\x7d' :: rest => some (object (insertField key v read), rest)
            | _ => none
        | _ => none
    | _ => none

end

/-- Reads a document. -/
def parse? (text : String) : Option Json :=
  let cs := text.toList
  match value? maxDepth (cs.length + 1) cs with
  | some (v, rest) => if (skipSpace rest).isEmpty then some v else none
  | none => none

end ClassWeaver.Json
