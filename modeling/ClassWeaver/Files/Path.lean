import ClassWeaver.Text.Split

/-!
# Paths

Paths as they are written: names joined by slashes, from the top if the first character is a slash and from the
working directory otherwise. A path keeps its spelling, since reports show it; what it leads to is for the file
tree to say.

## Contents

* `Path`, `join`, `parent?`, `ancestors` — paths and the paths above them.
* `segments`, `splitName` — the names in a path.
-/

namespace ClassWeaver

/-- A path in its spelling. -/
structure Path where
  text : String
  deriving DecidableEq, Repr, Inhabited

namespace Path

/-! ## Going down -/

/-- Whether a path starts from the top. -/
def isAbsolute (p : Path) : Bool :=
  p.text.toList.head? == some '/'

/-- A path behind another one; a path from the top replaces it. -/
def join (p : Path) (name : String) : Path :=
  if (Path.mk name).isAbsolute then ⟨name⟩
  else if p.text.isEmpty || p.text.toList.getLast? == some '/' then ⟨p.text ++ name⟩
  else ⟨p.text ++ "/" ++ name⟩

/-- Several names behind a path. -/
def joinAll (p : Path) (names : List String) : Path :=
  names.foldl join p

/-! ## Going up -/

/-- A path, last character first, without slashes and single dots at its end; the top keeps its slash. -/
def dropTail : List Char → List Char
  | '/' :: c :: rest => dropTail (c :: rest)
  | '.' :: '/' :: rest => dropTail ('/' :: rest)
  | other => other

/-- The path without its last name, if it has a name. -/
def parent? (p : Path) : Option Path :=
  match dropTail p.text.toList.reverse with
  | [] => none
  | ['/'] => none
  | last => some ⟨String.ofList (dropTail (last.dropWhile (· != '/'))).reverse⟩

/-- The path and those above it, nearest first, as far as they name something; `depth` bounds their number. -/
def ancestorsWithin : (depth : Nat) → Path → List Path
  | 0, _ => []
  | depth + 1, p =>
    match p.parent? with
    | none => []
    | some up => p :: ancestorsWithin depth up

/-- The path and those above it, nearest first. Each is shorter than the one before. -/
def ancestors (p : Path) : List Path :=
  ancestorsWithin (p.text.length + 1) p

/-! ## Names -/

/-- The texts between the slashes of a path. -/
def segments (p : Path) : List String :=
  (Text.split '/' p.text.toList).map String.ofList

/-- A name up to its last dot and what follows the dot; a dot in front does not count. -/
def splitName (name : String) : String × Option String :=
  let reversed := name.toList.reverse
  match reversed.dropWhile (· != '.') with
  | [] => (name, none)
  | [_] => (name, none)
  | _ :: stem =>
    if name == ".." then (name, none)
    else (String.ofList stem.reverse, some (String.ofList (reversed.takeWhile (· != '.')).reverse))

end Path

end ClassWeaver
