import ClassWeaver.Files.Path

/-!
# Arguments of the command line

What a user asks for. Options may stand between the other arguments; two dashes end the options.

## Contents

* `Command`, `Invocation` — what can be asked for.
* `Invocation.ofArguments` — reading arguments.
-/

namespace ClassWeaver

/-- A command with its arguments. -/
inductive Command
  | init (root : Option Path)
  | discover (root : Option Path) (classpath : List Path)
  | inspect (file : Path)
  | transform (root input output : Path) (classpath : List Path)
  deriving DecidableEq, Repr

/-- What a user asks for. -/
inductive Invocation
  | run (command : Command)
  | help
  | version
  deriving DecidableEq, Repr

namespace Invocation

/-! ## Words -/

/-- What a word on the command line is, before the options end. -/
inductive Word
  | separator
  /-- An option with a long name, perhaps with a value behind an equals sign. -/
  | long (name : String) (value : Option String)
  /-- Options of one letter. -/
  | short (letters : List Char)
  | plain (text : String)
  deriving DecidableEq, Repr

/-- A long option from what stands behind its dashes. -/
def Word.ofLong (cs : List Char) : Word :=
  let name := String.ofList (cs.takeWhile (· != '='))
  match cs.dropWhile (· != '=') with
  | [] => .long name none
  | _ :: value => .long name (some (String.ofList value))

/-- Reads a word; a single dash is a plain one. -/
def Word.of (text : String) : Word :=
  match text.toList with
  | ['-', '-'] => .separator
  | '-' :: '-' :: rest => .ofLong rest
  | '-' :: c :: rest => .short (c :: rest)
  | _ => .plain text

/-! ## Reading -/

/-- What was read so far of the words of a command. -/
structure Reading where
  verbose : Bool
  plain : List String
  classpath : List String
  deriving DecidableEq, Repr

/-- The commands and how many plain words each may have. -/
def commands : List (String × Nat) :=
  [("init", 1), ("discover", 1), ("inspect", 1), ("transform", 3)]

/-- Whether a command has a classpath. -/
def hasClasspath (command : String) : Bool :=
  command == "discover" || command == "transform"

/-- The effect of options of one letter: what they ask for, or whether they make the run talkative. -/
def readShort (verbose : Bool) : List Char → Option (Invocation ⊕ Bool)
  | [] => some (.inr verbose)
  | 'h' :: _ => some (.inl .help)
  | 'V' :: _ => some (.inl .version)
  | 'v' :: rest => if verbose then none else readShort true rest
  | _ => none

/-- The effect of an option without a value. -/
def readLong (verbose : Bool) : String → Option (Invocation ⊕ Bool)
  | "help" => some (.inl .help)
  | "version" => some (.inl .version)
  | "verbose" => if verbose then none else some (.inr true)
  | _ => none

/-- Adds a plain word, of which a command takes a limited number; an empty one is refused. -/
def Reading.addPlain (limit : Nat) (r : Reading) (text : String) : Option Reading :=
  if text.isEmpty || r.plain.length == limit then none else some { r with plain := r.plain ++ [text] }

/-- Adds plain words. -/
def Reading.addAllPlain (limit : Nat) (r : Reading) (texts : List String) : Option Reading :=
  texts.foldlM (Reading.addPlain limit) r

/-- Adds a directory to the classpath; an empty one is refused. -/
def Reading.addDirectory (r : Reading) (text : String) : Option Reading :=
  if text.isEmpty then none else some { r with classpath := r.classpath ++ [text] }

/-- Reads the words behind the name of a command, up to a request for help or for the version. -/
def readWords (command : String) (limit : Nat) : Reading → List String → Option (Invocation ⊕ Reading)
  | r, [] => some (.inr r)
  | r, text :: rest =>
    match Word.of text with
    | .separator => (r.addAllPlain limit rest).map .inr
    | .plain text => do readWords command limit (← r.addPlain limit text) rest
    | .short letters => do
      match ← readShort r.verbose letters with
      | .inl asked => return .inl asked
      | .inr verbose => readWords command limit { r with verbose } rest
    | .long "classpath" (some value) =>
      if hasClasspath command then do readWords command limit (← r.addDirectory value) rest else none
    | .long "classpath" none =>
      match rest with
      | [] => none
      | value :: rest =>
        match hasClasspath command, Word.of value with
        | true, .plain value => do readWords command limit (← r.addDirectory value) rest
        | _, _ => none
    | .long _ (some _) => none
    | .long name none => do
      match ← readLong r.verbose name with
      | .inl asked => return .inl asked
      | .inr verbose => readWords command limit { r with verbose } rest

/-- The command of a name with the words behind it. -/
def commandOf (name : String) (r : Reading) : Option Command :=
  let classpath := r.classpath.map Path.mk
  match name, r.plain with
  | "init", plain => some (.init (plain.head?.map Path.mk))
  | "discover", plain => some (.discover (plain.head?.map Path.mk) classpath)
  | "inspect", [file] => some (.inspect ⟨file⟩)
  | "transform", [root, input, output] => some (.transform ⟨root⟩ ⟨input⟩ ⟨output⟩ classpath)
  | _, _ => none

/-- Reads the words in front of the name of a command, and then the command. -/
def readTop (verbose : Bool) : List String → Option Invocation
  | [] => none
  | text :: rest =>
    match Word.of text with
    | .separator => none
    | .short letters => do
      match ← readShort verbose letters with
      | .inl asked => return asked
      | .inr verbose => readTop verbose rest
    | .long _ (some _) => none
    | .long name none => do
      match ← readLong verbose name with
      | .inl asked => return asked
      | .inr verbose => readTop verbose rest
    | .plain "help" => if rest.all fun name => (commands.lookup name).isSome then some .help else none
    | .plain name => do
      match ← readWords name (← commands.lookup name) ⟨false, [], []⟩ rest with
      | .inl asked => return asked
      | .inr r => return .run (← commandOf name r)

/-- What the arguments ask for, if they can be understood. -/
def ofArguments (arguments : List String) : Option Invocation :=
  readTop false arguments

end Invocation

end ClassWeaver
