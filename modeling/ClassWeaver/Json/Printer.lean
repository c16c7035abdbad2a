import ClassWeaver.Bytes.Hex
import ClassWeaver.Json.Basic

/-!
# Printing documents

Two layouts of one document: on a single line without blanks, and spread over lines with two blanks for each
level. Characters outside ASCII stand for themselves; only quotes, backslashes and control characters are
escaped.
-/

namespace ClassWeaver.Json

/-- A character inside a quoted text. -/
def escapeChar (c : Char) : List Char :=
  if c == '"' then ['\\', '"']
  else if c == '\\' then ['\\', '\\']
  else if c == '\n' then ['\\', 'n']
  else if c == '\r' then ['\\', 'r']
  else if c == '\t' then ['\\', 't']
  else if c.toNat == 8 then ['\\', 'b']
  else if c.toNat == 12 then ['\\', 'f']
  else if c.toNat < 32 then ['\\', 'u', '0', '0', Bytes.hexDigit (c.toNat / 16), Bytes.hexDigit c.toNat]
  else [c]

/-- A quoted text. -/
def quote (s : String) : String :=
  String.ofList ('"' :: (s.toList.flatMap escapeChar ++ ['"']))

/-! ## On one line -/

mutual

/-- A value on one line. -/
def compact : Json → String
  | null => "null"
  | bool true => "true"
  | bool false => "false"
  | integer n => toString n
  | decimal d => d.toDocument
  | string s => quote s
  | array values => "[" ++ ",".intercalate (compactAll values) ++ "]"
  | object fields => "\x7b" ++ ",".intercalate (compactFields fields) ++ "\x7d"

/-- Values on one line each. -/
def compactAll : List Json → List String
  | [] => []
  | v :: rest => compact v :: compactAll rest

/-- Fields on one line each. -/
def compactFields : List (String × Json) → List String
  | [] => []
  | (k, v) :: rest => (quote k ++ ":" ++ compact v) :: compactFields rest

end

/-! ## Over several lines -/

/-- Items between brackets, each on a line of its own; no items take no line. -/
def block (indent : String) (opening closing : String) (items : List String) : String :=
  if items.isEmpty then opening ++ closing
  else
    let inner := "\n" ++ indent ++ "  "
    opening ++ inner ++ ("," ++ inner).intercalate items ++ "\n" ++ indent ++ closing

mutual

/-- A value whose first line starts behind `indent`. -/
def pretty (indent : String) : Json → String
  | array values => block indent "[" "]" (prettyAll (indent ++ "  ") values)
  | object fields => block indent "\x7b" "\x7d" (prettyFields (indent ++ "  ") fields)
  | null => "null"
  | bool true => "true"
  | bool false => "false"
  | integer n => toString n
  | decimal d => d.toDocument
  | string s => quote s

/-- Values of an array. -/
def prettyAll (indent : String) : List Json → List String
  | [] => []
  | v :: rest => pretty indent v :: prettyAll indent rest

/-- Fields of an object. -/
def prettyFields (indent : String) : List (String × Json) → List String
  | [] => []
  | (k, v) :: rest => (quote k ++ ": " ++ pretty indent v) :: prettyFields indent rest

end

end ClassWeaver.Json
