import ClassWeaver.Engine.Dispatch
import ClassWeaver.Plugin.Discovery

/-!
# Sessions

A run of a command: the files that it changes and the lines that it prints. What was printed before a failure
stays printed.

## Contents

* `CommandFailure` — why a command stopped.
* `Session`, `Running` — runs.
* `success`, `warning`, `info`, `heading`, `item`, `entry` — lines for a reader.
-/

namespace ClassWeaver

/-! ## Failures -/

/-- Why a command stopped. -/
inductive CommandFailure
  | registry (cause : RegistryFailure)
  | discovery (cause : DiscoveryFailure)
  | engine (cause : EngineFailure)
  | classData (cause : Defect)
  | identity (cause : Identity.Violation)
  /-- A file could not be used in the way that the verb names. -/
  | file (verb : String) (path : Path) (fault : FileFault)
  | notDirectory (input : Path)
  | noInstallation (start : Path)
  | archive (path : Path)
  deriving DecidableEq, Repr

/-- The text shown for a failure. -/
def CommandFailure.message : CommandFailure → String
  | registry cause => cause.message
  | discovery cause => cause.message
  | engine cause => cause.message
  | classData cause => cause.message
  | identity cause => cause.message
  | file verb path fault => s!"Failed to {verb} {path.text}: {fault.message}"
  | notDirectory input => s!"Input {input.text} is not a directory"
  | noInstallation start =>
    s!"No Graft installation found in {start.text} or any parent directory. Run 'graft init' first."
  | archive path => s!"Failed to read archive {path.text}"

/-! ## Runs -/

/-- The files and the printed lines of a run. -/
structure Session where
  files : FileTree
  printed : List String
  deriving DecidableEq, Repr

/-- A step of a run that may fail; files and lines are kept either way. -/
abbrev Running (α : Type) :=
  ExceptT CommandFailure (StateM Session) α

namespace Running

/-- A result as a step of a run. -/
def ofResult {ε α : Type} (failure : ε → CommandFailure) : Except ε α → Running α
  | .ok a => return a
  | .error e => throw (failure e)

/-- A change of files as a step of a run. -/
def onFiles (verb : String) (p : Path) (action : FileAction Unit) : Running Unit := fun s =>
  let (result, files) := action.run s.files
  (result.mapError (.file verb p), { s with files })

/-- Prints a line. -/
def print (line : String) : Running Unit :=
  modify fun s => { s with printed := s.printed ++ [line] }

/-! ## Lines -/

/-- Reports success. -/
def success (text : String) : Running Unit :=
  print ("✓ " ++ text)

/-- Warns. -/
def warning (text : String) : Running Unit :=
  print ("⚠ " ++ text)

/-- Informs. -/
def info (text : String) : Running Unit :=
  print ("ℹ " ++ text)

/-- Starts a section. -/
def heading (title : String) : Running Unit := do
  print ""
  print s!"── {title} ──"

/-- Prints an item of a list. -/
def item (text : String) : Running Unit :=
  print ("  • " ++ text)

/-- Prints a value under its name. -/
def entry (key value : String) : Running Unit :=
  print s!"  {key}: {value}"

end Running

end ClassWeaver
