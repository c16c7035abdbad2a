import ClassWeaver.Files.Tree
import ClassWeaver.Plugin.LaunchPlugin
import ClassWeaver.Text.Blank

/-!
# Discovery of plugins

Plugins are announced by manifests: text files that name their types. Directories of a classpath are searched
first and may name any number of types; archives under the root come second and name one each. Discovery is all
or nothing, so a type that the catalog does not know stops it.

## Contents

* `DiscoveryFailure` — why discovery stopped.
* `classpathEntries` — the types named on a classpath.
* `candidateArchives`, `scanArchives` — the files that may be archives, and the types that archives name.
* `discover` — both, instantiated.
* `attributedEntries` — the files in archives that belong to plugins.
-/

namespace ClassWeaver

/-- The manifest below a classpath directory or inside an archive. -/
def manifestPath : String :=
  "META-INF/graft/launch-plugin"

/-- The directories below the root that are searched for archives. -/
def archiveDirectories : List String :=
  ["plugins", "launch-plugins"]

/-! ## Failures -/

/-- Why discovery stopped. -/
inductive DiscoveryFailure
  | unreadable (path : Path) (fault : FileFault)
  | archive (path : Path) (reason : String)
  | unknownType (typeName : String) (origin : PluginOrigin)
  deriving DecidableEq, Repr

namespace DiscoveryFailure

/-- The text shown for a failure. -/
def message : DiscoveryFailure → String
  | unreadable path fault => s!"Failed to read {path.text}: {fault.message}"
  | archive path reason => s!"Failed to read archive {path.text}: {reason}"
  | unknownType typeName origin => s!"Unknown launch plugin type '{typeName}' declared by {origin.display}"

/-- The diagnostic code of a failure. -/
def code : DiscoveryFailure → String
  | unreadable _ _ => "graft::discovery::io"
  | archive _ _ => "graft::discovery::archive"
  | unknownType _ _ => "graft::discovery::unknown_type"

/-- Advice on a failure, if there is any. -/
def help? : DiscoveryFailure → Option String
  | unknownType _ _ => some "register a factory for this type in the plugin catalog"
  | _ => none

end DiscoveryFailure

/-! ## The classpath -/

/-- The lines of a manifest without the blanks around them, empty ones left out. -/
def manifestLines (text : String) : List String :=
  ((Text.lines text).map Text.trim).filter fun line => !line.isEmpty

/-- The types that the manifest of a classpath directory names; lines that start with `#` are comments. -/
def directoryTypes (t : FileTree) (directory : Path) : Except DiscoveryFailure (List String) :=
  let manifest := directory.join manifestPath
  if t.isFile manifest then
    match t.readText manifest with
    | .ok text => .ok ((manifestLines text).filter fun line => line.toList.head? != some '#')
    | .error fault => .error (.unreadable manifest fault)
  else .ok []

/-- The types that a classpath names, with their directories, in the order of the classpath. -/
def classpathEntries (t : FileTree) : List Path → Except DiscoveryFailure (List (Path × String))
  | [] => .ok []
  | directory :: rest => do
    let types ← directoryTypes t directory
    return types.map (fun typeName => (directory, typeName)) ++ (← classpathEntries t rest)

/-! ## Archives -/

/-- The files in a directory and in the directories directly below it, by their names, in the order of names. -/
def filesWithin (t : FileTree) (place : Location) : List (List String) :=
  (t.children place).flatMap fun (name, node) =>
    match node with
    | .file _ => [[name]]
    | .directory => (t.children (place ++ [name])).filterMap fun (inner, node) =>
      match node with
      | .file _ => some [name, inner]
      | .directory => none

/-- The files that may be archives of plugins. -/
def candidateArchives (t : FileTree) (root : Path) : List Path :=
  archiveDirectories.flatMap fun name =>
    let directory := root.join name
    match t.resolve directory with
    | .ok (.found place .directory) => (filesWithin t place).map directory.joinAll
    | _ => []

/-- The archive in a file, if the file holds one. Every file of a tree can be opened; on a disk one may not be, and then
looking into it fails, while a path that leads to no file is passed over here. -/
def archiveAt? (t : FileTree) (p : Path) : Option Archive :=
  match t.nodeAt? p with
  | some (.file (.archive a)) => some a
  | _ => none

/-- The content of the manifest in an archive, if there is one. -/
def Archive.manifest? (a : Archive) : Option (List UInt8) :=
  (a.entries.find? fun e => e.name == manifestPath && e.content.isSome).bind ArchiveEntry.content

/-- The type that an archive names, if it names one. -/
def archiveType (path : Path) (a : Archive) : Except DiscoveryFailure (Option String) :=
  match a.manifest? with
  | none => .ok none
  | some content =>
    if !a.readable then .error (.archive path "Compression method not supported")
    else
      match FileTree.textOfBytes? content with
      | none => .error (.unreadable path .notText)
      | some text => .ok (manifestLines text).head?

/-- An archive and the type that its manifest names. -/
structure ArchiveManifest where
  archive : Path
  typeName : String
  deriving DecidableEq, Repr

/-- The archives among some files that name a type. -/
def scanFiles (t : FileTree) : List Path → Except DiscoveryFailure (List ArchiveManifest)
  | [] => .ok []
  | path :: rest =>
    match archiveAt? t path with
    | none => scanFiles t rest
    | some a => do
      match ← archiveType path a with
      | none => scanFiles t rest
      | some typeName => return ⟨path, typeName⟩ :: (← scanFiles t rest)

/-- The archives under the root that name a type. -/
def scanArchives (t : FileTree) (root : Path) : Except DiscoveryFailure (List ArchiveManifest) :=
  scanFiles t (candidateArchives t root)

/-! ## Discovery -/

/-- Makes the plugin of a type that was found. -/
def PluginCatalog.make (c : PluginCatalog) (typeName : String) (origin : PluginOrigin) :
    Except DiscoveryFailure DiscoveredPlugin :=
  match c.instantiate? typeName with
  | some plugin => .ok ⟨plugin, typeName, origin⟩
  | none => .error (.unknownType typeName origin)

/-- The plugins of a classpath, then those of the archives under the root. -/
def discover (c : PluginCatalog) (classpath : List Path) (t : FileTree) (root : Path) :
    Except DiscoveryFailure (List DiscoveredPlugin) := do
  let ofClasspath ← (← classpathEntries t classpath).mapM fun (directory, typeName) =>
    c.make typeName (.classpath directory)
  let ofArchives ← (← scanArchives t root).mapM fun m => c.make m.typeName (.archive m.archive)
  return ofClasspath ++ ofArchives

/-! ## Files of plugins in archives -/

/-- A file in an archive and the plugin that it belongs to. -/
structure AttributedEntry where
  archive : Path
  entry : String
  pluginId : String
  deriving DecidableEq, Repr

/-- The files of one archive that belong to plugins; the first plugin that owns a file has it. -/
def Archive.attributed (a : Archive) (path : Path) (plugins : List LaunchPlugin) : List AttributedEntry :=
  a.entries.filterMap fun e =>
    if e.content.isNone || e.name.toList.getLast? == some '/' then none
    else (plugins.find? (·.owns e.name)).map fun p => ⟨path, e.name, p.id⟩

/-- The files of archives under the root that belong to plugins. -/
def attributedEntries (plugins : List LaunchPlugin) (t : FileTree) (root : Path) : List AttributedEntry :=
  (candidateArchives t root).flatMap fun path =>
    match archiveAt? t path with
    | some a => a.attributed path plugins
    | none => []

end ClassWeaver
