import ClassWeaver.Json.Syntax
import ClassWeaver.Registry.Blackboard

/-!
# Configuration

The documents below `config/graft` in which users switch transformers on and off and tune them. What a document
lacks is filled in and written back; a document that lacks nothing is left as it is, and so is one that cannot
be read. How documents are read and printed is up to a library.

## Contents

* `readDocument`, `writeDocument` — documents in files.
* `Switches`, `fillSwitches`, `loadSwitches` — `environment.json`.
* `fillFlags`, `loadFlags` — `transformers.json`.
* `settle`, `loadSettings` — the settings of one transformer.
* `EngineConfig`, `Blackboard.loadConfig` — all of them.
-/

namespace ClassWeaver

open Json (insertField field?)

/-- The directory of the documents below the root. -/
def configDirectory : String :=
  "config/graft"

/-- The directory of dumped classes below the root. -/
def dumpDirectory : String :=
  ".graft/dump"

variable [DocumentSyntax]

/-! ## Documents in files -/

/-- A step of loading that may fail; the tree is kept either way. -/
abbrev Loading (α : Type) :=
  ExceptT RegistryFailure (StateM FileTree) α

namespace Loading

/-- A change of files; a failure names the path. -/
def onFiles (p : Path) (action : FileAction Unit) : Loading Unit := fun t =>
  let (result, t) := action.run t
  (result.mapError (.inaccessible p), t)

/-- Passes a result on; a fault is one of the document at the path. -/
def ofResult {α : Type} (p : Path) : Except DocumentFault α → Loading α
  | .ok a => return a
  | .error fault => throw (.document p fault)

end Loading

/-- The document in a file, if the file exists. -/
def readDocument (p : Path) : Loading (Option Json) := do
  let t ← get
  if t.present p then
    match t.readText p with
    | .error fault => throw (.inaccessible p fault)
    | .ok text =>
      match DocumentSyntax.parse? text with
      | some document => return some document
      | none => throw (.document p .notJson)
  else return none

/-- Writes a document into a file, whose directory is made if it is missing. -/
def writeDocument (p : Path) (document : Json) : Loading Unit := do
  match p.parent? with
  | some up => Loading.onFiles up (FileAction.makeDirectories up)
  | none => pure ()
  Loading.onFiles p (FileAction.write p (.bytes (FileTree.bytesOfText (documentText document))))

/-- Writes a document unless the file holds it already. -/
def updateDocument (p : Path) (existing : Option Json) (document : Json) : Loading Unit :=
  if existing = some document then return () else writeDocument p document

/-! ## Switches -/

/-- Switches for the engine as a whole. -/
structure Switches where
  /-- Every class that was dispatched is also written to the dump. -/
  dump : Bool
  /-- No class is touched. -/
  emergencyMode : Bool
  /-- Files of plugins in archives are not copied. -/
  disableJarCopying : Bool
  deriving DecidableEq, Repr

/-- What the document of switches says about them. -/
def switchComment : String :=
  "dump: write every rewritten class to .graft/dump. " ++
    "emergency_mode: skip all transformation and return classes untouched. " ++
    "disable_jar_copying: do not copy plugin archive entries into the output."

/-- The state of a switch, and the fields with the switch in them. -/
def fillSwitch (name : String) (fields : List (String × Json)) :
    Except DocumentFault (Bool × List (String × Json)) :=
  match field? name fields with
  | some value =>
    match (value.get? "enabled").bind Json.toBool? with
    | some enabled => .ok (enabled, fields)
    | none => .error (.switchNotBoolean name)
  | none => .ok (false, insertField name (.ofFields [("enabled", .bool false)]) fields)

/-- The switches, and the fields with all of them and the comment in them. -/
def fillSwitches (fields : List (String × Json)) : Except DocumentFault (Switches × List (String × Json)) := do
  let fields :=
    if (field? "_comment" fields).isSome then fields else insertField "_comment" (.string switchComment) fields
  let (dump, fields) ← fillSwitch "dump" fields
  let (emergencyMode, fields) ← fillSwitch "emergency_mode" fields
  let (disableJarCopying, fields) ← fillSwitch "disable_jar_copying" fields
  return (⟨dump, emergencyMode, disableJarCopying⟩, fields)

/-- The fields of a document of switches. -/
def switchFields : Option Json → Except DocumentFault (List (String × Json))
  | none => .ok []
  | some (.object fields) => .ok fields
  | some _ => .error .notAnObject

/-- Loads the switches; those that are missing are off. -/
def loadSwitches (directory : Path) : Loading Switches := do
  let p := directory.join "environment.json"
  let existing ← readDocument p
  let fields ← Loading.ofResult p (switchFields existing)
  let (switches, fields) ← Loading.ofResult p (fillSwitches fields)
  updateDocument p existing (.object fields)
  return switches

/-! ## Flags of transformers -/

/-- The flags in a document. -/
def flagsOf : Option Json → Except Json.Mismatch (List (String × Bool))
  | none => .ok []
  | some (.object fields) => fields.mapM fun (name, value) => do return (name, ← Json.boolean value)
  | some other => Json.mismatch other "a map"

/-- The flags with those of some transformers in them; a missing one is the transformer's default. -/
def fillFlags (flags : List (String × Bool)) (transformers : List Transformer) : List (String × Bool) :=
  transformers.foldl
    (fun flags t =>
      if (field? t.registryName flags).isSome then flags
      else insertField t.registryName t.data.enabledByDefault flags)
    flags

/-- Flags as a document. -/
def flagsDocument (flags : List (String × Bool)) : Json :=
  .object (flags.map fun (name, enabled) => (name, .bool enabled))

/-- Loads the flags of transformers. -/
def loadFlags (directory : Path) (transformers : List Transformer) : Loading (List (String × Bool)) := do
  let p := directory.join "transformers.json"
  let existing ← readDocument p
  let flags ← Loading.ofResult p ((flagsOf existing).mapError .mismatch)
  let flags := fillFlags flags transformers
  updateDocument p existing (flagsDocument flags)
  return flags

/-! ## Settings of transformers -/

/-- The directory of the settings of a plugin's transformers. -/
def settingsDirectory (directory : Path) (pluginId : String) : Path :=
  (directory.join "plugins").join pluginId

/-- The file of a transformer's settings. -/
def settingsPath (directory : Path) (t : Transformer) : Path :=
  (settingsDirectory directory t.data.pluginId).join (t.data.name ++ ".json")

/-- Brings settings and their document together: what the document should be, and the settings then in force. -/
def settle (s : Settings) : Option Json → Except SettingsFailure Json × Settings
  | none =>
    match s.defaults with
    | .error failure => (.error failure, s)
    | .ok document =>
      let (result, s) := s.deserialize document
      (result.map fun _ => document, s)
  | some document =>
    match s.deserialize document with
    | (.error failure, s) => (.error failure, s)
    | (.ok (), s) => (s.serialize, s)

/-- Loads the settings in a file. -/
def loadSettings (p : Path) (s : Settings) (t : FileTree) : Except RegistryFailure Unit × Settings × FileTree :=
  match readDocument p t with
  | (.error failure, t) => (.error failure, s, t)
  | (.ok existing, t) =>
    match settle s existing with
    | (.error failure, s) => (.error (.document p (.settings failure)), s, t)
    | (.ok document, s) =>
      let (result, t) := updateDocument p existing document t
      (result, s, t)

/-- Loads the settings of a transformer that has some. -/
def Transformer.load (directory : Path) (transformer : Transformer) (t : FileTree) :
    Except RegistryFailure Unit × Transformer × FileTree :=
  match transformer.settings with
  | none => (.ok (), transformer, t)
  | some s =>
    let (result, s, t) := loadSettings (settingsPath directory transformer) s t
    (result, { transformer with settings := some s }, t)

/-- Loads the settings of transformers, up to the first failure. -/
def loadAllSettings (directory : Path) :
    List Transformer → FileTree → Except RegistryFailure Unit × List Transformer × FileTree
  | [], t => (.ok (), [], t)
  | transformer :: rest, t =>
    match transformer.load directory t with
    | (.error failure, transformer, t) => (.error failure, transformer :: rest, t)
    | (.ok (), transformer, t) =>
      let (result, rest, t) := loadAllSettings directory rest t
      (result, transformer :: rest, t)

/-! ## All of the configuration -/

/-- What the engine needs from the configuration. -/
structure EngineConfig where
  switches : Switches
  /-- Whether a transformer runs, by its name. -/
  flags : List (String × Bool)
  dumpRoot : Path
  deriving DecidableEq, Repr

/-- Whether a transformer runs: as its flag says, or else its default. -/
def EngineConfig.isEnabled (c : EngineConfig) (t : Transformer) : Bool :=
  (field? t.registryName c.flags).getD t.data.enabledByDefault

namespace Blackboard

/-- Makes the directories of the documents. -/
def makeConfigDirectories (b : Blackboard) (directory : Path) : Loading Unit := do
  Loading.onFiles directory (FileAction.makeDirectories directory)
  (b.plugins.filter fun d => !d.plugin.transformers.isEmpty).forM fun d =>
    let p := settingsDirectory directory d.id
    Loading.onFiles p (FileAction.makeDirectories p)

/-- Makes the directories and loads all documents but those of settings. -/
def loadShared (b : Blackboard) (root : Path) : Loading EngineConfig := do
  let directory := root.join configDirectory
  b.makeConfigDirectories directory
  let switches ← loadSwitches directory
  let flags ← loadFlags directory b.transformers
  return ⟨switches, flags, root.join dumpDirectory⟩

/-- Loads the configuration below a root; settings that were loaded before a failure stay in force. -/
def loadConfig (b : Blackboard) (root : Path) (t : FileTree) :
    Except RegistryFailure EngineConfig × Blackboard × FileTree :=
  match b.loadShared root t with
  | (.error failure, t) => (.error failure, b, t)
  | (.ok config, t) =>
    let (result, transformers, t) := loadAllSettings (root.join configDirectory) b.transformers t
    (result.map fun _ => config, { b with transformers }, t)

end Blackboard

end ClassWeaver
