import ClassWeaver.CommandLine.Arguments
import ClassWeaver.CommandLine.Libraries
import ClassWeaver.CommandLine.Session
import ClassWeaver.Digest.Blake3

/-!
# Execution of commands

What each command does to the files and what it prints. The catalog holds the plugins that the program brings
along; without any, classes pass through untouched. Commands work with any syntax of documents.

## Contents

* `setUp`, `listPlugins`, `inspectClass`, `transformTree` — the commands.
* `Command.execute`, `runProgram` — running a command, and running the program.
-/

namespace ClassWeaver

open Identity

variable [DocumentSyntax]

namespace Running

/-! ## The root -/

/-- The working directory. -/
def workingDirectory : Running Path := do
  return ⟨"/" ++ "/".intercalate (← get).files.workingDirectory⟩

/-- The nearest directory with a configuration, from one directory upwards. -/
def findRoot (start : Path) : Running Path := do
  let files := (← get).files
  let upwards : List Path := start.ancestors ++ [⟨"/"⟩]
  match upwards.find? fun p => files.isDirectory (p.join configDirectory) with
  | some root => return root
  | none => throw (.noInstallation start)

/-- The given root, or the one found from the working directory upwards. -/
def resolveRoot : Option Path → Running Path
  | some root => return root
  | none => do findRoot (← workingDirectory)

/-- Loads the configuration of accepted plugins. -/
def loadConfig (b : Blackboard) (root : Path) : Running (Blackboard × EngineConfig) := fun s =>
  match b.loadConfig root s.files with
  | (.error failure, _, files) => (.error (.registry failure), { s with files })
  | (.ok config, b, files) => (.ok (b, config), { s with files })

/-- Accepts plugins in an installation and loads their configuration. -/
def accept (plugins : List DiscoveredPlugin) (root : Path) : Running (Blackboard × EngineConfig) := do
  let b ← ofResult .registry (Blackboard.accept plugins (Host.static root [])).1
  loadConfig b root

/-! ## Setting up -/

/-- Writes the documents of a new installation. -/
def setUp (root : Option Path) : Running Unit := do
  let root ← match root with
    | some root => pure root
    | none => workingDirectory
  let (_, config) ← accept [] root
  archiveDirectories.forM fun name =>
    onFiles "create" (root.join name) (FileAction.makeDirectories (root.join name))
  success s!"Initialized {(root.join configDirectory).text}"
  entry "dump" (toString config.switches.dump)
  entry "emergency_mode" (toString config.switches.emergencyMode)
  entry "disable_jar_copying" (toString config.switches.disableJarCopying)
  info "Drop plugin archives into plugins/ and run 'graft discover'"

/-! ## Listing plugins -/

/-- Prints a type, the place that names it, and whether the catalog has it. -/
def announce (catalog : PluginCatalog) (typeName : String) (place : Path) : Running Unit :=
  item (s!"{typeName} {place.text} " ++ if catalog.contains typeName then "linked" else "not linked")

/-- Lists the types that a classpath names. -/
def listClasspath (catalog : PluginCatalog) (classpath : List Path) : Running Unit := do
  heading "Classpath manifests"
  let entries ← ofResult .discovery (classpathEntries (← get).files classpath)
  entries.forM fun (directory, typeName) => announce catalog typeName directory

/-- Lists the types that archives name, and the files that belong to those of the catalog. -/
def listArchives (catalog : PluginCatalog) (root : Path) : Running Unit := do
  heading "Plugin archives"
  let manifests ← ofResult .discovery (scanArchives (← get).files root)
  if manifests.isEmpty then info s!"No plugin archives under {root.text}"
  else
    manifests.forM fun m => announce catalog m.typeName m.archive
    let loadable := manifests.filterMap fun m => catalog.instantiate? m.typeName
    if loadable.isEmpty then warning "No archive declares a plugin linked into this binary"
    else
      heading "Attributed entries"
      (attributedEntries loadable (← get).files root).forM fun e =>
        entry e.pluginId s!"{e.archive.text}!{e.entry}"

/-- Lists plugins. -/
def listPlugins (catalog : PluginCatalog) (root : Option Path) (classpath : List Path) : Running Unit := do
  let root ← resolveRoot root
  if classpath.isEmpty then pure () else listClasspath catalog classpath
  listArchives catalog root

/-! ## Inspecting a class -/

/-- What the bytes of a file are to a reader of classes. An archive starts with its own signature. -/
def Content.classBytes : Content → List UInt8
  | .bytes value => value
  | .archive _ => [0x50, 0x4B, 0x03, 0x04]

/-- Prints a field of a class. -/
def printField (c : ClassFile) (m : Member) : Running Unit := do
  let name ← ofResult .classData (c.memberName m)
  let descriptor ← ofResult .classData (c.memberDescriptor m)
  let (type, _) ← ofResult .identity (TypeDescriptor.parseFieldType descriptor.toList)
  item s!"{type.name} {name} {m.access.display}"

/-- Prints a method of a class with the size of its body. -/
def printMethod (c : ClassFile) (index : Nat) (m : Member) : Running Unit := do
  let name ← ofResult .classData (c.memberName m)
  let descriptor ← ofResult .classData (c.memberDescriptor m)
  let signature ← ofResult .identity (MethodDescriptor.parse name descriptor m.isStatic)
  let size := match ← ofResult .classData (c.code index) with
    | some body => s!"{body.instructions.length} instructions"
    | none => "no body"
  item s!"{signature.display} {size}"

/-- Prints a summary of a class. -/
def inspectClass (file : Path) : Running Unit := do
  let content ← ofResult (.file "read" file) ((← get).files.read file)
  let bytes := Content.classBytes content
  let c ← ofResult .classData (ClassFile.ofBytes bytes)
  print (← ofResult .classData c.typeDescriptor).name
  entry "version" s!"{c.majorVersion}.{c.minorVersion}"
  entry "access" c.access.display
  entry "super" ((← ofResult .classData c.superName).getD "-")
  let interfaces ← ofResult .classData c.interfaceNames
  if interfaces.isEmpty then pure () else entry "interfaces" (", ".intercalate interfaces)
  entry "transformed" (toString (← ofResult .classData (c.isAnnotatedWith markType)))
  entry "blake3" (Blake3.digestHex bytes)
  heading s!"Fields ({c.fields.length})"
  c.fields.forM (printField c)
  heading s!"Methods ({c.methods.length})"
  c.methods.zipIdx.forM fun (m, index) => printMethod c index m

/-! ## Transforming a tree -/

/-- Does something for every file below a place, in the order of names; a directory is listed when it is entered.
`depth` bounds how deep directories nest. -/
def forFilesBelow {β : Type} (visit : List String → Running (List β)) :
    (depth : Nat) → Location → List String → Running (List β)
  | 0, _, _ => return []
  | depth + 1, place, relative => do
    let results ← ((← get).files.children place).mapM fun (name, node) =>
      match node with
      | .file _ => visit (relative ++ [name])
      | .directory => forFilesBelow visit depth (place ++ [name]) (relative ++ [name])
    return results.flatten

/-- The name of the class in a file below the input, if the file's name is one of a class file. A name of dots before
the ending names no class; nor would one that is no UTF-8, but trees have only texts for names. -/
def classNameOf? (relative : List String) : Option String :=
  match relative.getLast?.map Path.splitName with
  | some (stem, some "class") =>
    if stem == "." || stem == ".." then none else some (".".intercalate (relative.dropLast ++ [stem]))
  | _ => none

/-- Sends a class file through the engine into the output. A class that no transformer was asked about keeps its
content. -/
def transformFile (engine : Engine) (source destination : Path) (className : String) : Running Outcome := do
  let content ← ofResult (.file "read" source) ((← get).files.read source)
  let s ← get
  let d := engine.transform engine.targetTable className (Content.classBytes content) s.files
  set { s with files := d.files }
  let (bytes, outcome) ← ofResult .engine d.result
  let written := if outcome = .bypassed then content else .bytes bytes
  onFiles "write" destination (FileAction.write destination written)
  return outcome

/-- Brings one file of the input into the output. -/
def transformOne (engine : Engine) (input output : Path) (relative : List String) : Running (List Outcome) := do
  let source := input.join ("/".intercalate relative)
  let destination := output.join ("/".intercalate relative)
  onFiles "create" destination (FileAction.makeParents destination)
  match classNameOf? relative with
  | none =>
    onFiles "copy" source (FileAction.copy source destination)
    return []
  | some className => return [← transformFile engine source destination className]

/-- Whether a name in an archive stays below the directory that it is unpacked into; `depth` counts the names that
lead down so far. -/
def staysBelow (depth : Nat) : List String → Bool
  | [] => true
  | name :: rest =>
    if name == "" || name == "." then staysBelow depth rest
    else if name == ".." then
      match depth with
      | 0 => false
      | depth + 1 => staysBelow depth rest
    else staysBelow (depth + 1) rest

/-- Whether an entry of an archive may be unpacked. -/
def isSafeEntry (name : String) : Bool :=
  !name.toList.contains '\x00' && !(Path.mk name).isAbsolute && staysBelow 0 (Path.mk name).segments

/-- Unpacks an entry of an archive into the output; an entry that would leave the output is passed over. -/
def copyEntry (output : Path) (e : AttributedEntry) : Running Nat := do
  match archiveAt? (← get).files e.archive with
  | none => throw (.archive e.archive)
  | some a =>
    match a.readable, (a.entries.find? fun x => x.name == e.entry).bind ArchiveEntry.content with
    | true, some content =>
      if isSafeEntry e.entry then
        let destination := output.join e.entry
        onFiles "create" destination (FileAction.makeParents destination)
        onFiles "write" destination (FileAction.write destination (.bytes content))
        return 1
      else return 0
    | _, _ => throw (.archive e.archive)

/-- Whether a list of names stands before another one or equals it, compared name by name. -/
def namesInOrder : List String → List String → Bool
  | [], _ => true
  | _ :: _, [] => false
  | a :: as, b :: bs => if a = b then namesInOrder as bs else a ≤ b

/-- Entries in the order of their archives' paths. -/
def inArchiveOrder (entries : List AttributedEntry) : List AttributedEntry :=
  entries.mergeSort fun a b => namesInOrder a.archive.segments b.archive.segments

/-- How often an outcome occurred. -/
def count (outcome : Outcome) (outcomes : List Outcome) : Nat :=
  (outcomes.filter fun o => o = outcome).length

/-- Transforms the classes below the input into the output and copies all other files. -/
def transformTree (catalog : PluginCatalog) (root input output : Path) (classpath : List Path) : Running Unit := do
  if (← get).files.isDirectory input then pure () else throw (.notDirectory input)
  let plugins ← ofResult .discovery (discover catalog classpath (← get).files root)
  let entries := attributedEntries (plugins.map DiscoveredPlugin.plugin) (← get).files root
  let (b, config) ← accept plugins root
  let engine := Engine.new.accept b config
  let files := (← get).files
  let outcomes ← forFilesBelow (transformOne engine input output)
    (2 * files.height + output.text.length + 2) ((files.placeOf? input).getD []) []
  let copied ← if config.switches.disableJarCopying then pure [] else (inArchiveOrder entries).mapM (copyEntry output)
  print ""
  let total := copied.foldr (· + ·) 0
  print (s!"DONE: {count .transformed outcomes} transformed, {count .noOp outcomes} unchanged, " ++
    s!"{count .bypassed outcomes} untouched, {total} plugin entries copied")

end Running

/-! ## Commands -/

/-- Runs a command. -/
def Command.execute (catalog : PluginCatalog) : Command → Running Unit
  | init root => Running.setUp root
  | discover root classpath => Running.listPlugins catalog root classpath
  | inspect file => Running.inspectClass file
  | transform root input output classpath => Running.transformTree catalog root input output classpath

/-- What is left of a run: how it ended, the lines that it printed and the files. -/
structure Finished where
  /-- Zero for success, one for a failure and two for arguments that cannot be understood. -/
  exitCode : UInt32
  printed : List String
  failure : Option String
  files : FileTree

/-- How the program is called. -/
def usage : List String :=
  ["Usage: graft [-v] <COMMAND>", "", "Commands:",
    "  init [ROOT]                                        Write the default configuration documents",
    "  discover [ROOT] [--classpath DIR]...               List plugin archives and the entries attributed to them",
    "  inspect CLASS                                      Summarize a class file",
    "  transform ROOT INPUT OUTPUT [--classpath DIR]...   Transform a directory of class files"]

/-- Runs the program with some arguments on some files. -/
def runProgram (catalog : PluginCatalog) (arguments : List String) (files : FileTree) : Finished :=
  match Invocation.ofArguments arguments with
  | none => ⟨2, [], some ("\n".intercalate usage), files⟩
  | some .help => ⟨0, usage, none, files⟩
  | some .version => ⟨0, ["graft 0.1.0"], none, files⟩
  | some (.run command) =>
    match (command.execute catalog).run ⟨files, []⟩ with
    | (.ok (), s) => ⟨0, s.printed, none, s.files⟩
    | (.error failure, s) => ⟨1, s.printed, some failure.message, s.files⟩

end ClassWeaver
