import ClassWeaver.Files.Path

/-!
# File trees

The files and directories that a run reads and changes, as a value. A path is followed name by name, so every
name on the way has to be a directory that exists; a change either happens as a whole or leaves the tree as it
was.

## Contents

* `Content`, `Archive`, `Node`, `FileTree` — what files hold, and trees.
* `Path.place` — the place that a path names.
* `FileFault` — why following or changing failed.
* `resolve` and the questions `present`, `isDirectory`, `isFile`, `read`, `readText`, `children`.
* `FileAction` and the changes `makeDirectory`, `makeDirectories`, `write`, `copy`.
-/

namespace ClassWeaver

/-! ## Trees -/

/-- An entry of an archive; a directory entry has no content. -/
structure ArchiveEntry where
  name : String
  content : Option (List UInt8)
  deriving DecidableEq, Repr

/-- An archive as the list of its entries. -/
structure Archive where
  entries : List ArchiveEntry
  /-- Whether the packing of the entries is one that can be undone. -/
  readable : Bool
  deriving DecidableEq, Repr

/-- What a file holds. -/
inductive Content
  | bytes (value : List UInt8)
  | archive (value : Archive)
  deriving DecidableEq, Repr

/-- A place in a tree: the names from the top. All names are texts; there are no trees with names that are no UTF-8. -/
abbrev Location :=
  List String

/-- The place that a name leads to from a place: one dot stays there, two dots lead up. -/
def Path.step (place : Location) (name : String) : Location :=
  if name == "" || name == "." then place else if name == ".." then place.dropLast else place ++ [name]

/-- The place that a path names, going by its spelling alone. -/
def Path.place (workingDirectory : Location) (p : Path) : Location :=
  p.segments.foldl step (if p.isAbsolute then [] else workingDirectory)

/-- What stands at a place. -/
inductive Node
  | directory
  | file (content : Content)
  deriving DecidableEq, Repr

/-- Files and directories, with the directory from which relative paths start. The top is always a directory. -/
structure FileTree where
  nodes : List (Location × Node)
  workingDirectory : Location
  deriving DecidableEq, Repr

/-- Why a path could not be followed or a change could not be made. -/
inductive FileFault
  | missing
  | notDirectory
  | isDirectory
  | occupied
  /-- A name that no file can have, or a path that is too long. -/
  | invalidName
  /-- Content that is not text. -/
  | notText
  deriving DecidableEq, Repr

/-- The text shown for a fault. -/
def FileFault.message : FileFault → String
  | missing => "No such file or directory"
  | notDirectory => "Not a directory"
  | isDirectory => "Is a directory"
  | occupied => "File exists"
  | invalidName => "Invalid file name"
  | notText => "stream did not contain valid UTF-8"

namespace FileTree

/-- What stands at a place, if anything does. -/
def node? (t : FileTree) : Location → Option Node
  | [] => some .directory
  | place => (t.nodes.find? fun (l, _) => l == place).map Prod.snd

/-- The tree with a node put at a place. -/
def put (t : FileTree) (place : Location) (node : Node) : FileTree :=
  if t.nodes.any fun (l, _) => l == place then
    { t with nodes := t.nodes.map fun (l, n) => if l == place then (l, node) else (l, n) }
  else { t with nodes := t.nodes ++ [(place, node)] }

/-! ## Following paths -/

/-- Where a path leads. -/
inductive Spot
  | found (place : Location) (node : Node)
  /-- A free name in a directory; `asDirectory` says that the path ends in a slash. -/
  | free (place : Location) (asDirectory : Bool)
  deriving DecidableEq, Repr

/-- Whether a name is one that a file can have: at most 255 bytes and no NUL. -/
def isName (name : String) : Bool :=
  name.utf8ByteSize ≤ 255 && !name.toList.contains '\x00'

/-- Follows names from a place. -/
def follow (t : FileTree) (place : Location) : List String → Except FileFault Spot
  | [] =>
    match t.node? place with
    | some node => .ok (.found place node)
    | none => .error .missing
  | name :: rest =>
    match t.node? place with
    | none => .error .missing
    | some (.file _) => .error .notDirectory
    | some .directory =>
      if name == "" || name == "." then follow t place rest
      else if name == ".." then follow t place.dropLast rest
      else if !isName name then .error .invalidName
      else if (t.node? (place ++ [name])).isSome then follow t (place ++ [name]) rest
      else if rest.all (· == "") then .ok (.free (place ++ [name]) !rest.isEmpty)
      else .error .missing

/-- The number of bytes that a path can have. -/
def maxPathLength : Nat :=
  4095

/-- Where a path leads; the empty path leads nowhere. -/
def resolve (t : FileTree) (p : Path) : Except FileFault Spot :=
  if p.text.isEmpty then .error .missing
  else if maxPathLength < p.text.utf8ByteSize then .error .invalidName
  else follow t (if p.isAbsolute then [] else t.workingDirectory) p.segments

/-- What a path leads to, if anything is there. -/
def nodeAt? (t : FileTree) (p : Path) : Option Node :=
  match t.resolve p with
  | .ok (.found _ node) => some node
  | _ => none

/-- The place of what a path leads to, if anything is there. -/
def placeOf? (t : FileTree) (p : Path) : Option Location :=
  match t.resolve p with
  | .ok (.found place _) => some place
  | _ => none

/-- Whether a path leads to something. -/
def present (t : FileTree) (p : Path) : Bool :=
  (t.nodeAt? p).isSome

/-- Whether a path leads to a directory. -/
def isDirectory (t : FileTree) (p : Path) : Bool :=
  t.nodeAt? p == some .directory

/-- Whether a path leads to a file. -/
def isFile (t : FileTree) (p : Path) : Bool :=
  match t.nodeAt? p with
  | some (.file _) => true
  | _ => false

/-- What the file at the end of a path holds. -/
def read (t : FileTree) (p : Path) : Except FileFault Content :=
  match t.resolve p with
  | .ok (.found _ (.file content)) => .ok content
  | .ok (.found _ .directory) => .error .isDirectory
  | .ok (.free _ _) => .error .missing
  | .error fault => .error fault

/-- Bytes as text, if they are the UTF-8 form of one. -/
def textOfBytes? (bytes : List UInt8) : Option String :=
  String.fromUTF8? ⟨bytes.toArray⟩

/-- The UTF-8 form of a text. -/
def bytesOfText (text : String) : List UInt8 :=
  text.toUTF8.data.toList

/-- The text that the file at the end of a path holds. -/
def readText (t : FileTree) (p : Path) : Except FileFault String := do
  match ← t.read p with
  | .archive _ => .error .notText
  | .bytes value =>
    match textOfBytes? value with
    | some text => .ok text
    | none => .error .notText

/-- What stands directly below a place, by name. -/
def children (t : FileTree) (place : Location) : List (String × Node) :=
  let below := t.nodes.filterMap fun (l, node) =>
    match l.getLast? with
    | some name => if l.dropLast == place then some (name, node) else none
    | none => none
  below.mergeSort fun a b => a.1 ≤ b.1

/-- The greatest number of names on the way to a node. -/
def height (t : FileTree) : Nat :=
  (t.nodes.map fun (l, _) => l.length).foldl max 0

end FileTree

/-! ## Changes -/

/-- A change of a tree that may fail. -/
abbrev FileAction (α : Type) :=
  ExceptT FileFault (StateM FileTree) α

namespace FileAction

/-- Adds a directory to one that exists. -/
def makeDirectory (p : Path) : FileAction Unit := do
  match (← get).resolve p with
  | .ok (.free place _) => modify fun t => t.put place .directory
  | .ok (.found _ _) => throw .occupied
  | .error fault => throw fault

/-- Adds the first of some directories, each inside the next, and those of the others that are missing. -/
def makeChain : List Path → FileAction Unit
  | [] => return ()
  | p :: up => fun t =>
    let settled (fault : FileFault) (t : FileTree) : Except FileFault Unit × FileTree :=
      if fault == .occupied && t.isDirectory p then (.ok (), t) else (.error fault, t)
    match makeDirectory p t with
    | (.ok (), t) => (.ok (), t)
    | (.error .missing, t) =>
      match makeChain up t with
      | (.error fault, t) => (.error fault, t)
      | (.ok (), t) =>
        match makeDirectory p t with
        | (.ok (), t) => (.ok (), t)
        | (.error fault, t) => settled fault t
    | (.error fault, t) => settled fault t

/-- Adds a directory and those on the way to it. -/
def makeDirectories (p : Path) : FileAction Unit :=
  makeChain p.ancestors

/-- Adds the directories on the way to a path. -/
def makeParents (p : Path) : FileAction Unit :=
  match p.parent? with
  | some up => makeDirectories up
  | none => return ()

/-- Puts content into a file, which is made if it is missing. -/
def write (p : Path) (content : Content) : FileAction Unit := do
  match (← get).resolve p with
  | .ok (.free place false) => modify fun t => t.put place (.file content)
  | .ok (.found place (.file _)) => modify fun t => t.put place (.file content)
  | .ok (.free _ true) => throw .isDirectory
  | .ok (.found _ .directory) => throw .isDirectory
  | .error fault => throw fault

/-- Copies a file. A file copied onto itself ends up empty, since it is emptied before it is read. -/
def copy (source destination : Path) : FileAction Unit := do
  let t ← get
  match t.read source with
  | .error fault => throw fault
  | .ok content =>
    if t.placeOf? source = t.placeOf? destination then write destination (.bytes []) else write destination content

end FileAction

end ClassWeaver
