import ClassWeaver.Engine.Dispatch

/-!
# What an engine should do with a class

The transformers that target the class and are switched on rewrite it one after the other; if one of them changed it,
the class is marked behind them; what comes of it is answered and, if that is wished, dumped.

The specification borrows how class files, their annotations and names are read and written, how texts are added to
a constant pool, and how directories and files are made. What is the engine's own it says itself: which transformers are
asked and in which order, where a flag is looked up and what counts without one, which annotation the mark is and where it
goes, under which names failures are reported, and where a class is dumped.

## Contents

* `Pass.rewrite` — what one weaving makes of the bytes of a class.
* `ClassFile.withMark`, `marked` — the mark.
* `targeting`, `switchedOn`, `rewriteAll` — the transformers of a class.
* `FileTree.withFile`, `naive` — the answer to a call, and the files after it.
* `EngineCall`, `naiveTrace` — many calls.
-/

namespace ClassWeaver

open Bytes Identity

/-- What a call of an engine answers: the bytes of the class and what became of it. -/
abbrev Answer :=
  Except EngineFailure (List UInt8 × Outcome)

/-! ## One weaving -/

namespace Pass

/-- Reads the class, weaves it and writes it; a failure is reported under the name of the pass. -/
def rewrite (p : Pass) (className : String) (bytes : List UInt8) : Except EngineFailure (List UInt8) :=
  match ClassFile.ofBytes bytes with
  | .error defect => .error (.pass p.name className (.classData defect))
  | .ok c =>
    match p.weaving.run c with
    | (.error failure, _) => .error (.pass p.name className failure)
    | (.ok (), woven) => .ok woven.toBytes

theorem rewrite_eq_ok {p : Pass} {className : String} {bytes written : List UInt8} :
    p.rewrite className bytes = .ok written ↔
      ∃ c, ClassFile.ofBytes bytes = .ok c ∧ ∃ woven, p.weaving c = (.ok (), woven) ∧ written = woven.toBytes := by
  rw [rewrite]
  cases ClassFile.ofBytes bytes with
  | error defect => exact iff_of_false nofun fun ⟨_, h, _⟩ => nomatch h
  | ok c =>
    have hrun : p.weaving.run c = p.weaving c := rfl
    dsimp only
    rw [hrun]
    cases hweaving : p.weaving c with
    | mk result woven =>
      cases result with
      | error failure =>
        refine iff_of_false nofun ?_
        rintro ⟨d, hd, u, hu, -⟩
        cases hd
        rw [hweaving] at hu
        cases hu
      | ok _ =>
        constructor
        · intro h
          cases h
          exact ⟨c, rfl, woven, hweaving, rfl⟩
        · rintro ⟨d, hd, u, hu, rfl⟩
          cases hd
          rw [hweaving] at hu
          cases hu
          rfl

end Pass

/-! ## The mark -/

/-- A pool with a text in it, and the index of the text. -/
def ConstantPool.withText (p : ConstantPool) (text : String) : Except Defect (UInt16 × ConstantPool) :=
  match ConstantPool.addUtf8 text p with
  | (.ok index, p) => .ok (index, p)
  | (.error defect, _) => .error defect

/-- A payload of annotations with one more at its end, which has no elements; the number in front counts it. -/
def annotationAdded (type : UInt16) : List UInt8 → List UInt8
  | high :: low :: annotations => u16 (word high low + 1) ++ (annotations ++ (u16 type ++ [0, 0]))
  | short => short

/-- The class with the mark. A class that has it stays as it is; otherwise the mark is put behind the annotations of the
first attribute for invisible ones, or into such an attribute behind all others. -/
def ClassFile.withMark (c : ClassFile) : Except Defect ClassFile := do
  if (← c.annotations).contains "Lgraft/runtime/Transformed;" then return c
  else
    let (type, pool) ← c.pool.withText "Lgraft/runtime/Transformed;"
    match c.attributes.findIdx? fun a => pool.hasText a.nameIndex "RuntimeInvisibleAnnotations" with
    | some position =>
      return { c with
        pool
        attributes := c.attributes.modify position fun a => { a with info := annotationAdded type a.info } }
    | none =>
      let (name, pool) ← pool.withText "RuntimeInvisibleAnnotations"
      return { c with pool, attributes := c.attributes ++ [⟨name, [0, 1] ++ (u16 type ++ [0, 0])⟩] }

/-- The bytes of the class with the mark. -/
def marked (className : String) (bytes : List UInt8) : Except EngineFailure (List UInt8) :=
  match ClassFile.ofBytes bytes >>= ClassFile.withMark with
  | .error defect => .error (.pass "graft:marker" className (.classData defect))
  | .ok c => .ok c.toBytes

/-! ## The transformers of a class -/

/-- The transformers that target a type, in the order of their registration, each of them once. -/
def targeting (transformers : List Transformer) (d : TypeDescriptor) : List Transformer :=
  transformers.filter fun t => d ∈ t.targets

/-- Whether a transformer runs: as the flag says that bears the id of its plugin and its name, and by its default where
there is no such flag. -/
def switchedOn (config : EngineConfig) (t : Transformer) : Bool :=
  (config.flags.lookup (t.data.pluginId ++ ":" ++ t.data.name)).getD t.data.enabledByDefault

/-- Replaces the buffer by what is made of it, and keeps track of whether it was ever changed. -/
def rewriteStep (rewrite : List UInt8 → Except EngineFailure (List UInt8)) (buffer : List UInt8 × Bool) :
    Except EngineFailure (List UInt8 × Bool) := do
  let written ← rewrite buffer.1
  return (written, buffer.2 || written != buffer.1)

/-- All transformers over a buffer, and the mark behind them if one of them changed it. -/
def rewriteAll (className : String) (transformers : List Transformer) (bytes : List UInt8) :
    Except EngineFailure (List UInt8 × Bool) := do
  let buffer ← transformers.foldlM
    (fun buffer t => rewriteStep (Pass.rewrite ⟨t.data.pluginId ++ ":" ++ t.data.name, t.run⟩ className) buffer)
    (bytes, false)
  if buffer.2 then rewriteStep (marked className) buffer else return buffer

/-! ## One call -/

/-- The tree with a file of the given bytes at a path, for which the directories on the way are made. What cannot be made
is left out. -/
def FileTree.withFile (t : FileTree) (p : Path) (bytes : List UInt8) : FileTree :=
  match FileAction.makeParents p t with
  | (.ok (), t) => (FileAction.write p (.bytes bytes) t).2
  | (.error _, t) => t

/-- What an engine should do with a class, given what it accepted last: the answer, and the files after it. -/
def naive (accepted : Option (Blackboard × EngineConfig)) (className : String) (bytes : List UInt8)
    (files : FileTree) : Answer × FileTree :=
  match accepted with
  | none => (.error .notAccepted, files)
  | some (blackboard, config) =>
    if config.switches.emergencyMode then (.ok (bytes, .bypassed), files)
    else
      match TypeDescriptor.of className with
      | .error _ => (.ok (bytes, .bypassed), files)
      | .ok d =>
        let chosen := targeting blackboard.transformers d
        if chosen.isEmpty then (.ok (bytes, .bypassed), files)
        else
          match rewriteAll className (chosen.filter (switchedOn config)) bytes with
          | .error failure => (.error failure, files)
          | .ok (written, changed) =>
            (.ok (written, if changed then .transformed else .noOp),
              if config.switches.dump then files.withFile (config.dumpRoot.join (d.internalName ++ ".class")) written
              else files)

/-! ## Many calls -/

/-- What a host asks of an engine; with each class comes the table of the types read until then. -/
inductive EngineCall
  | accept (blackboard : Blackboard) (config : EngineConfig)
  | transform (table : InternTable) (className : String) (bytes : List UInt8)

/-- The answers that the specification gives. -/
def naiveTrace (accepted : Option (Blackboard × EngineConfig)) (files : FileTree) :
    List EngineCall → List (Answer × FileTree)
  | [] => []
  | .accept blackboard config :: rest => naiveTrace (some (blackboard, config)) files rest
  | .transform _ className bytes :: rest =>
    let answered := naive accepted className bytes files
    answered :: naiveTrace accepted answered.2 rest

/-- Each table has the targets of the transformers that were accepted last. -/
def TargetsInterned (accepted : Option (Blackboard × EngineConfig)) : List EngineCall → Prop
  | [] => True
  | .accept blackboard config :: rest => TargetsInterned (some (blackboard, config)) rest
  | .transform table _ _ :: rest =>
    (∀ blackboard config, accepted = some (blackboard, config) →
      ∀ t ∈ blackboard.transformers, ∀ d ∈ t.targets, d ∈ table.types) ∧
    TargetsInterned accepted rest

end ClassWeaver
