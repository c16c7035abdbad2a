import ClassWeaver.CommandLine.Execution

/-!
# The command line

The program as it runs on a computer: it takes the files that its command may look at from the disk, runs the command
on them, prints its lines and puts what it changed back onto the disk. All that it decides is decided by
`ClassWeaver.runProgram`.

## Contents

* `Command.paths` — the paths that a command may look at.
* `Disk.load`, `Disk.store` — between the disk and a file tree.
* `main` — the program.
-/

namespace ClassWeaver

/-! ## What to load -/

/-- The paths of an installation that commands look at. -/
def installationPaths (root : Path) : List Path :=
  (configDirectory :: archiveDirectories).map root.join

/-- The paths that a command may look at or change, everything below them included. -/
def Command.paths (workingDirectory : Path) : Command → List Path
  | init root => installationPaths (root.getD workingDirectory)
  | discover (some root) classpath => installationPaths root ++ classpath.map (·.join manifestPath)
  | discover none classpath =>
    (workingDirectory.ancestors ++ [Path.mk "/"]).flatMap installationPaths ++ classpath.map (·.join manifestPath)
  | inspect file => [file]
  | transform root input output classpath =>
    installationPaths root ++ [input, output] ++ classpath.map (·.join manifestPath)

namespace Disk

/-! ## Between the disk and a tree -/

/-- The path of a place on the disk. -/
def pathOf (place : Location) :=
  System.mkFilePath ["/" ++ "/".intercalate place]

/-- Takes what stands at a place of the disk into a tree, with everything below it if `whole` says so. -/
partial def loadPlace (whole : Bool) (t : FileTree) (place : Location) : IO FileTree := do
  let path := pathOf place
  if ← path.isDir then
    let t := if place.isEmpty then t else t.put place .directory
    if whole then (← path.readDir).foldlM (fun t entry => loadPlace true t (place ++ [entry.fileName])) t
    else return t
  else if ← path.pathExists then return t.put place (.file (.bytes (← IO.FS.readBinFile path).toList))
  else return t

/-- Takes a place and the directories above it into a tree, with everything below it if `whole` says so. -/
def load (whole : Bool) (t : FileTree) (place : Location) : IO FileTree := do
  let above := (List.range place.length).map place.take
  loadPlace whole (← above.foldlM (loadPlace false) t) place

/-- Puts the nodes of a tree that another one has not onto the disk. -/
def store (before after : FileTree) : IO Unit :=
  (after.nodes.filter fun (place, node) => before.node? place ≠ some node).forM fun (place, node) =>
    match node with
    | .directory => IO.FS.createDirAll (pathOf place)
    | .file (.bytes content) => IO.FS.writeBinFile (pathOf place) ⟨content.toArray⟩
    | .file (.archive _) => return ()

end Disk

end ClassWeaver

open ClassWeaver in
/-- Runs the program on the arguments and the disk. -/
def main (arguments : List String) : IO UInt32 := do
  let current : Path := ⟨(← IO.currentDir).toString⟩
  let working := current.place []
  let places := match Invocation.ofArguments arguments with
    | some (.run command) => (command.paths current).map (Path.place working)
    | _ => []
  let before ← places.foldlM (Disk.load true) (← Disk.load false ⟨[], working⟩ working)
  let run := runProgram .empty arguments before
  run.printed.forM IO.println
  run.failure.forM IO.eprintln
  Disk.store before run.files
  return run.exitCode
