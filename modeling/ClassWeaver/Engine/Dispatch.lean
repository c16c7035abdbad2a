import ClassWeaver.ClassFile.Annotation
import ClassWeaver.Identity.InternTable
import ClassWeaver.Registry.Configuration

/-!
# Dispatch of classes

The engine sends the bytes of a class through the transformers that target it, in the order of their
registration, and marks the class if one of them changed it. Every pass reads the class anew, so that whether it
changed is seen by comparing bytes.

## Contents

* `DispatchIndex` — the transformers of each target.
* `Pass`, `Progress`, `Pass.run` — one reading, weaving and writing.
* `Engine`, `accept`, `state`, `transform` — the engine.
-/

namespace ClassWeaver

open Identity

/-! ## Results -/

/-- What became of a class. -/
inductive Outcome
  /-- No transformer was asked. -/
  | bypassed
  /-- No transformer changed the class. -/
  | noOp
  | transformed
  deriving DecidableEq, Repr

namespace Outcome

/-- The outcome as shown to a reader. -/
def name : Outcome → String
  | bypassed => "Bypassed"
  | noOp => "NoOp"
  | transformed => "Transformed"

end Outcome

/-- Why a class was not dispatched. -/
inductive EngineFailure
  | notAccepted
  | pass (transformer className : String) (cause : WeavingFailure)
  deriving DecidableEq, Repr

namespace EngineFailure

/-- The text shown for a failure. -/
def message : EngineFailure → String
  | notAccepted => "Transform requested before the engine accepted a blackboard"
  | pass transformer className cause =>
    s!"Transformer '{transformer}' failed on class {className}: {cause.message}"

/-- The diagnostic code of a failure. -/
def code : EngineFailure → String
  | notAccepted => "graft::engine::not_accepted"
  | pass _ _ _ => "graft::engine::transform_failure"

end EngineFailure

/-! ## The index -/

/-- The positions of the transformers of each target. -/
abbrev DispatchIndex :=
  List (TypeDescriptor × List Nat)

namespace DispatchIndex

/-- Adds a position to a target, unless it was the last one added there. -/
def add (target : TypeDescriptor) (position : Nat) : DispatchIndex → DispatchIndex
  | [] => [(target, [position])]
  | (d, positions) :: rest =>
    if d = target then
      if positions.getLast? = some position then (d, positions) :: rest else (d, positions ++ [position]) :: rest
    else (d, positions) :: add target position rest

/-- Adds the transformers of a list, whose first one has the given position. -/
def addAll (index : DispatchIndex) (position : Nat) : List Transformer → DispatchIndex
  | [] => index
  | t :: rest => addAll (t.targets.foldl (fun index d => add d position index) index) (position + 1) rest

/-- The index of a list of transformers. -/
def ofTransformers (transformers : List Transformer) : DispatchIndex :=
  addAll [] 0 transformers

/-- The positions of the transformers of a class. -/
def positions? (index : DispatchIndex) (d : TypeDescriptor) : Option (List Nat) :=
  (index.find? fun (e, _) => e = d).map Prod.snd

end DispatchIndex

/-! ## Passes -/

/-- The name of the pass that marks changed classes. -/
def markerName : String :=
  "graft:marker"

/-- A weaving under the name that reports give it. -/
structure Pass where
  name : String
  weaving : Weaving Unit

/-- The pass of a transformer. -/
def Transformer.pass (t : Transformer) : Pass :=
  ⟨t.registryName, t.run⟩

/-- The pass that marks a class. -/
def markerPass : Pass :=
  ⟨markerName, Weaving.ofEdit (discard (ClassEdit.annotate markType))⟩

/-- The state of a class between passes. -/
structure Progress where
  bytes : List UInt8
  changed : Bool
  /-- The passes whose weaving was run, in order, those that mark classes left out. -/
  ran : List String
  deriving DecidableEq, Repr

/-- A step of dispatching that may fail; the progress is kept either way. -/
abbrev Dispatching (α : Type) :=
  ExceptT WeavingFailure (StateM Progress) α

namespace Pass

/-- Reads the class, weaves it and writes it. -/
def run (p : Pass) : Dispatching Unit := fun progress =>
  match ClassFile.ofBytes progress.bytes with
  | .error defect => (.error (.classData defect), progress)
  | .ok c =>
    let progress := { progress with ran := progress.ran ++ [p.name] }
    match p.weaving.run c with
    | (.error failure, _) => (.error failure, progress)
    | (.ok (), c) =>
      let written := c.toBytes
      if written = progress.bytes then (.ok (), progress)
      else (.ok (), { progress with bytes := written, changed := true })

/-- Runs passes one after the other, up to the first failure, which is reported under the name of its pass. -/
def runAll (className : String) : List Pass → Progress → Except EngineFailure Unit × Progress
  | [], progress => (.ok (), progress)
  | p :: rest, progress =>
    match p.run progress with
    | (.error failure, progress) => (.error (.pass p.name className failure), progress)
    | (.ok (), progress) => runAll className rest progress

/-- Runs passes, then the marker if one of them changed the class. -/
def runMarked (className : String) (passes : List Pass) (bytes : List UInt8) :
    Except EngineFailure Unit × Progress :=
  match runAll className passes ⟨bytes, false, []⟩ with
  | (.error failure, progress) => (.error failure, progress)
  | (.ok (), progress) =>
    if progress.changed then
      let (result, marked) := runAll className [markerPass] progress
      (result, { marked with ran := progress.ran })
    else (.ok (), progress)

end Pass

/-! ## The engine -/

/-- A blackboard with its configuration; `index` is there once a class was looked up. -/
structure Accepted where
  blackboard : Blackboard
  config : EngineConfig
  index : Option DispatchIndex

namespace Accepted

/-- The index of the transformers. -/
def getIndex (a : Accepted) : DispatchIndex :=
  a.index.getD (DispatchIndex.ofTransformers a.blackboard.transformers)

/-- The target that a name spells, if the type was read before and some transformer targets it, with the passes
of the transformers that run. -/
def passes? (a : Accepted) (table : InternTable) (className : String) : Option (TypeDescriptor × List Pass) := do
  let d ← (table.lookup className).bind table.get?
  let positions ← a.getIndex.positions? d
  let transformers := positions.filterMap (a.blackboard.transformers[·]?)
  return (d, (transformers.filter a.config.isEnabled).map Transformer.pass)

end Accepted

/-- How far an engine is. -/
inductive EngineState
  | uninitialized
  | accepted
  | ready
  deriving DecidableEq, Repr

/-- The state as shown to a reader. -/
def EngineState.name : EngineState → String
  | uninitialized => "Uninitialized"
  | accepted => "Accepted"
  | ready => "Ready"

/-- The engine, before or after it was given a blackboard. -/
structure Engine where
  accepted : Option Accepted

/-- What came of sending a class through an engine. -/
structure Dispatched where
  result : Except EngineFailure (List UInt8 × Outcome)
  /-- The transformers that were run, in order. -/
  ran : List String
  engine : Engine
  files : FileTree

namespace Engine

/-- The engine before it was given a blackboard. -/
def new : Engine :=
  ⟨none⟩

/-- The engine with a blackboard and its configuration in place of those before. -/
def accept (_ : Engine) (blackboard : Blackboard) (config : EngineConfig) : Engine :=
  ⟨some ⟨blackboard, config, none⟩⟩

/-- How far the engine is. -/
def state (e : Engine) : EngineState :=
  match e.accepted with
  | none => .uninitialized
  | some a => if a.index.isSome then .ready else .accepted

/-- The types that an engine has read: those that its transformers target. -/
def targetTable (e : Engine) : InternTable :=
  match e.accepted with
  | none => .empty
  | some a => (a.blackboard.transformers.flatMap Transformer.targets).foldl (fun t d => (t.intern d).2) .empty

/-- The file to which a class is dumped. -/
def dumpPath (dumpRoot : Path) (d : TypeDescriptor) : Path :=
  dumpRoot.join (d.internalName ++ ".class")

/-- Writes a class to the dump; a failure only means that there is no such file. -/
def dump (dumpRoot : Path) (d : TypeDescriptor) (bytes : List UInt8) (t : FileTree) : FileTree :=
  let p := dumpPath dumpRoot d
  match (FileAction.makeParents p).run t with
  | (.error _, t) => t
  | (.ok (), t) => ((FileAction.write p (.bytes bytes)).run t).2

/-- Sends a class through the transformers that target its name; `table` holds the types that were read. -/
def transform (e : Engine) (table : InternTable) (className : String) (bytes : List UInt8) (files : FileTree) :
    Dispatched :=
  match e.accepted with
  | none => ⟨.error .notAccepted, [], e, files⟩
  | some a =>
    if a.config.switches.emergencyMode then ⟨.ok (bytes, .bypassed), [], e, files⟩
    else
      let e : Engine := ⟨some { a with index := some a.getIndex }⟩
      match a.passes? table className with
      | none => ⟨.ok (bytes, .bypassed), [], e, files⟩
      | some (d, passes) =>
        match Pass.runMarked className passes bytes with
        | (.error failure, progress) => ⟨.error failure, progress.ran, e, files⟩
        | (.ok (), progress) =>
          let files :=
            if a.config.switches.dump then dump a.config.dumpRoot d progress.bytes files else files
          let outcome := if progress.changed then Outcome.transformed else .noOp
          ⟨.ok (progress.bytes, outcome), progress.ran, e, files⟩

end Engine

end ClassWeaver
