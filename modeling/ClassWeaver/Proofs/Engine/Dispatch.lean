import ClassWeaver.Proofs.ClassFile.Annotations
import ClassWeaver.Proofs.Engine.Specification
import ClassWeaver.Proofs.Identity.Recognition

/-!
# Dispatch and its specification

The engine takes another road than its specification: it inverts the targets into an index, keeps the index from the first
class on, compares each position with the last one of its target only, asks the intern table instead of reading the name,
and carries a progress through its passes, the last of which marks the class. Every run of an engine gives the same answers
and the same files all the same.

## Contents

* `positions?_ofTransformers` — the index holds what `targeting` selects.
* `passes?_eq` — selection through the table and the index is selection by reading the name.
* `rewrite_markerPass_eq`, `isEnabled_eq`, `dump_eq` — the mark, the flags and the dump.
* `outcome_runAll`, `outcome_runMarked` — running passes is folding over buffers.
* `Represents`, `transform_refines` — one class.
* `trace_refines`, `run_refines` — every sequence of calls.
-/

namespace ClassWeaver

open Identity

/-! ## The index -/

namespace DispatchIndex

/-- Adds a position behind others, unless it is the last of them. -/
def appendNew (positions : List Nat) (position : Nat) : List Nat :=
  if positions.getLast? = some position then positions else positions ++ [position]

theorem appendNew_appendNew (positions : List Nat) (position : Nat) :
    appendNew (appendNew positions position) position = appendNew positions position := by
  have hlast : (appendNew positions position).getLast? = some position := by
    rw [appendNew]
    split
    · assumption
    · exact List.getLast?_concat
  rw [appendNew, if_pos hlast]

/-- A position above all others is new. -/
theorem appendNew_of_lt {positions : List Nat} {position : Nat} (h : ∀ i ∈ positions, i < position) :
    appendNew positions position = positions ++ [position] := by
  rw [appendNew, if_neg]
  intro hlast
  exact Nat.lt_irrefl _ (h position (List.mem_of_getLast? hlast))

theorem positions?_add (index : DispatchIndex) (target d : TypeDescriptor) (position : Nat) :
    positions? (add target position index) d =
      if target = d then some (appendNew ((positions? index d).getD []) position) else positions? index d := by
  induction index with
  | nil =>
    by_cases h : target = d
    · simp [add, positions?, appendNew, h]
    · simp [add, positions?, h]
  | cons entry rest ih =>
    obtain ⟨e, positions⟩ := entry
    rw [add]
    by_cases he : e = target
    · subst he
      rw [if_pos rfl]
      by_cases h : e = d
      · subst h
        simp only [positions?, appendNew]
        split <;> simp_all
      · split <;> simp [positions?, h]
    · rw [if_neg he]
      by_cases h : e = d
      · subst h
        rw [if_neg (Ne.symm he)]
        simp [positions?]
      · have hskip : ∀ index : DispatchIndex, positions? ((e, positions) :: index) d = positions? index d := by
          intro index
          simp [positions?, h]
        rw [hskip, hskip, ih]

/-- All targets of one transformer: repeats among them add nothing. -/
theorem positions?_addTargets (targets : List TypeDescriptor) (index : DispatchIndex) (d : TypeDescriptor)
    (position : Nat) :
    positions? (targets.foldl (fun index d => add d position index) index) d =
      if d ∈ targets then some (appendNew ((positions? index d).getD []) position) else positions? index d := by
  induction targets generalizing index with
  | nil => rw [List.foldl_nil, if_neg List.not_mem_nil]
  | cons target targets ih =>
    rw [List.foldl_cons, ih, positions?_add]
    by_cases h : target = d
    · subst h
      simp [appendNew_appendNew]
    · have hmem : d ∈ target :: targets ↔ d ∈ targets := by
        rw [List.mem_cons, or_iff_right (Ne.symm h)]
      simp only [if_neg h, hmem]

/-- The positions of the transformers of a list that target a type; the first one has the given position. -/
def chosen (d : TypeDescriptor) (position : Nat) : List Transformer → List Nat
  | [] => []
  | t :: rest => if d ∈ t.targets then position :: chosen d (position + 1) rest else chosen d (position + 1) rest

/-- More positions behind those of an entry, which is made if there is need. -/
def extend (positions? : Option (List Nat)) (more : List Nat) : Option (List Nat) :=
  if more.isEmpty then positions? else some (positions?.getD [] ++ more)

theorem positions?_addAll (transformers : List Transformer) (index : DispatchIndex) (d : TypeDescriptor)
    (position : Nat) (h : ∀ i ∈ (positions? index d).getD [], i < position) :
    positions? (addAll index position transformers) d =
      extend (positions? index d) (chosen d position transformers) := by
  induction transformers generalizing index position with
  | nil => rfl
  | cons t rest ih =>
    rw [addAll, chosen]
    have hstep := positions?_addTargets t.targets index d position
    by_cases ht : d ∈ t.targets
    · rw [if_pos ht, appendNew_of_lt h] at hstep
      rw [if_pos ht, ih, hstep]
      · simp [extend]
      · -- positions grow, so the next one is above all that are there
        rw [hstep]
        intro i hi
        rcases List.mem_append.mp hi with hi | hi
        · exact Nat.lt_succ_of_lt (h i hi)
        · rw [List.mem_singleton.mp hi]
          exact Nat.lt_succ_self position
    · rw [if_neg ht] at hstep
      rw [if_neg ht, ih, hstep]
      rw [hstep]
      exact fun i hi => Nat.lt_succ_of_lt (h i hi)

/-- **The index holds, for each type, the positions of its transformers.** -/
theorem positions?_ofTransformers (transformers : List Transformer) (d : TypeDescriptor) :
    positions? (ofTransformers transformers) d = extend none (chosen d 0 transformers) :=
  positions?_addAll transformers [] d 0 nofun

theorem isEmpty_chosen (d : TypeDescriptor) (transformers : List Transformer) (position : Nat) :
    (chosen d position transformers).isEmpty = (targeting transformers d).isEmpty := by
  induction transformers generalizing position with
  | nil => rfl
  | cons t rest ih =>
    by_cases ht : d ∈ t.targets
    · simp [chosen, targeting, ht]
    · have := ih (position + 1)
      simp only [targeting] at this
      simp [chosen, targeting, ht, this]

theorem filterMap_chosen (d : TypeDescriptor) (before rest : List Transformer) :
    (chosen d before.length rest).filterMap ((before ++ rest)[·]?) = targeting rest d := by
  induction rest generalizing before with
  | nil => rfl
  | cons t rest ih =>
    have hrest := ih (before ++ [t])
    rw [List.length_append, List.length_singleton, List.append_assoc, List.singleton_append] at hrest
    by_cases ht : d ∈ t.targets
    · rw [chosen, if_pos ht, List.filterMap_cons_some (b := t) (by simp), hrest]
      simp [targeting, ht]
    · rw [chosen, if_neg ht, hrest]
      simp [targeting, ht]

end DispatchIndex

/-! ## Selection -/

namespace Accepted

/-- The index, if it is kept, is the one of the transformers. -/
def IndexValid (a : Accepted) : Prop :=
  ∀ index, a.index = some index → index = DispatchIndex.ofTransformers a.blackboard.transformers

theorem IndexValid.getIndex_eq {a : Accepted} (h : a.IndexValid) :
    a.getIndex = DispatchIndex.ofTransformers a.blackboard.transformers := by
  rw [getIndex]
  cases hi : a.index with
  | none => rfl
  | some index => exact h index hi

/-- Keeping the index is right: nothing else of the engine's state depends on it. -/
theorem IndexValid.keep {a : Accepted} (h : a.IndexValid) : IndexValid { a with index := some a.getIndex } := by
  intro index hindex
  cases hindex
  exact h.getIndex_eq

/-- The transformers that the index gives for a type. -/
theorem IndexValid.positions?_eq {a : Accepted} (h : a.IndexValid) (d : TypeDescriptor) :
    (a.getIndex.positions? d).map (·.filterMap (a.blackboard.transformers[·]?)) =
      if (targeting a.blackboard.transformers d).isEmpty then none
      else some (targeting a.blackboard.transformers d) := by
  rw [h.getIndex_eq, DispatchIndex.positions?_ofTransformers, DispatchIndex.extend,
    DispatchIndex.isEmpty_chosen]
  split
  · rfl
  · have hchosen := DispatchIndex.filterMap_chosen d [] a.blackboard.transformers
    rw [List.nil_append, List.length_nil] at hchosen
    rw [Option.getD_none, List.nil_append, Option.map_some, hchosen]

/-- **Selection by table and index is selection by reading.** The table decides nothing: a name that it lacks is
none that any transformer targets. -/
theorem passes?_eq {a : Accepted} (h : a.IndexValid) {table : InternTable}
    (hinterned : ∀ t ∈ a.blackboard.transformers, ∀ d ∈ t.targets, d ∈ table.types) (className : String) :
    a.passes? table className =
      match TypeDescriptor.of className with
      | .error _ => none
      | .ok d =>
        let chosen := targeting a.blackboard.transformers d
        if chosen.isEmpty then none else some (d, (chosen.filter a.config.isEnabled).map Transformer.pass) := by
  have hlookup : a.passes? table className = ((table.lookup className).bind table.get?).bind fun d =>
      ((a.getIndex.positions? d).map (·.filterMap (a.blackboard.transformers[·]?))).bind fun chosen =>
        some (d, (chosen.filter a.config.isEnabled).map Transformer.pass) := by
    rw [passes?]
    simp only [Option.bind_map]
    rfl
  rw [hlookup]
  cases hfound : (table.lookup className).bind table.get? with
  | some d =>
    rw [(InternTable.lookup_eq_some_iff.mp hfound).1, Option.bind_some, h.positions?_eq]
    dsimp only
    split <;> rfl
  | none =>
    rw [Option.bind_none]
    cases hof : TypeDescriptor.of className with
    | error v => rfl
    | ok d =>
      -- the name is read but the table lacks its type, so no transformer targets it
      have hmissing : d ∉ table.types := by
        intro hd
        rw [InternTable.lookup_eq_some_iff.mpr ⟨hof, hd⟩] at hfound
        cases hfound
      have hempty : targeting a.blackboard.transformers d = [] := by
        rw [targeting, List.filter_eq_nil_iff]
        intro t ht htarget
        exact hmissing (hinterned t ht d (of_decide_eq_true htarget))
      dsimp only
      rw [hempty]
      rfl

end Accepted

/-! ## Flags, mark and dump -/

theorem lookup_eq_field? {α : Type} (key : String) (fields : List (String × α)) :
    fields.lookup key = Json.field? key fields := by
  induction fields with
  | nil => rfl
  | cons field rest ih =>
    obtain ⟨k, value⟩ := field
    by_cases h : k = key
    · subst h
      simp [Json.field?]
    · rw [List.lookup_cons, beq_false_of_ne (Ne.symm h), ih]
      simp [Json.field?, h]

/-- The engine looks up the flag that the specification names. -/
theorem isEnabled_eq (config : EngineConfig) : config.isEnabled = switchedOn config :=
  funext fun t => congrArg (·.getD t.data.enabledByDefault) (lookup_eq_field? t.registryName config.flags).symm

/-- A class is dumped where the specification says, as the specification says. -/
theorem dump_eq (dumpRoot : Path) (d : TypeDescriptor) (bytes : List UInt8) (files : FileTree) :
    Engine.dump dumpRoot d bytes files = files.withFile (dumpRoot.join (d.internalName ++ ".class")) bytes := by
  have hrun (p : Path) : (FileAction.makeParents p).run files = FileAction.makeParents p files := rfl
  unfold Engine.dump FileTree.withFile
  dsimp only
  rw [Engine.dumpPath, hrun]
  generalize dumpRoot.join (d.internalName ++ ".class") = p
  rcases FileAction.makeParents p files with ⟨_ | made, t⟩
  · rfl
  · rfl

/-- A payload is extended as the specification says. -/
theorem annotationAdded_eq (type : UInt16) (payload : List UInt8) : annotationAdded type payload = appendEntry type payload := by
  rcases payload with _ | ⟨high, _ | ⟨low, annotations⟩⟩
  · rfl
  · rfl
  · rfl

/-- Stamping a class gives it the mark. -/
theorem withMark_eq (c : ClassFile) : c.withMark =
    match ClassEdit.annotate markType c with
    | (.ok _, c') => .ok c'
    | (.error defect, _) => .error defect := by
  have hposition (pool : ConstantPool) : attributePosition? c.attributes pool "RuntimeInvisibleAnnotations" =
      c.attributes.findIdx? fun a => pool.hasText a.nameIndex "RuntimeInvisibleAnnotations" := rfl
  -- both sides ask the same questions in the same order, so they are followed from question to question
  simp only [ClassFile.withMark, ClassEdit.annotate_eq, annotationAdded_eq, markType, invisibleName, hposition]
  cases c.annotations with
  | error defect => rfl
  | ok types =>
    simp only [bind, Except.bind]
    by_cases hmarked : types.contains "Lgraft/runtime/Transformed;" = true
    · rw [if_pos hmarked, if_pos hmarked]
      rfl
    · rw [if_neg hmarked, if_neg hmarked, ConstantPool.withText]
      rcases ConstantPool.addUtf8 "Lgraft/runtime/Transformed;" c.pool with ⟨_ | index, pool⟩
      · rfl
      · dsimp only
        cases c.attributes.findIdx? fun a => pool.hasText a.nameIndex "RuntimeInvisibleAnnotations" with
        | some position => rfl
        | none =>
          dsimp only
          rw [ConstantPool.withText]
          rcases ConstantPool.addUtf8 "RuntimeInvisibleAnnotations" pool with ⟨_ | nameIndex, later⟩
          · rfl
          · rfl

theorem run_markerPass (c : ClassFile) : markerPass.weaving.run c =
    (((ClassEdit.annotate markType c).1.map fun _ => ()).mapError .classData, (ClassEdit.annotate markType c).2) := by
  have hdiscard := Edits.bind_eq (ClassEdit.annotate markType) (fun _ => pure ()) c
  refine (congrArg (fun made => (made.1.mapError WeavingFailure.classData, made.2)) hdiscard).trans ?_
  rcases ClassEdit.annotate markType c with ⟨_ | added, c'⟩
  · rfl
  · rfl

/-- **The marking pass writes the class with the mark.** -/
theorem rewrite_markerPass_eq (className : String) : markerPass.rewrite className = marked className := by
  funext bytes
  rw [marked, Pass.rewrite]
  cases ClassFile.ofBytes bytes with
  | error defect => rfl
  | ok c =>
    have hbind : (Except.ok c >>= ClassFile.withMark) = c.withMark := rfl
    dsimp only
    rw [run_markerPass, hbind, withMark_eq]
    rcases ClassEdit.annotate markType c with ⟨_ | added, c'⟩
    · rfl
    · rfl

/-! ## Running passes -/

namespace Pass

/-- The buffer of a progress, if all went well. -/
def buffer (result : Except EngineFailure Unit × Progress) : Except EngineFailure (List UInt8 × Bool) :=
  result.1.map fun _ => (result.2.bytes, result.2.changed)

/-- One pass replaces the buffer by what it makes of it. -/
theorem outcome_run (p : Pass) (className : String) (progress : Progress) :
    rewriteStep (p.rewrite className) (progress.bytes, progress.changed) =
      match p.run progress with
      | (.error failure, _) => .error (.pass p.name className failure)
      | (.ok (), progress) => .ok (progress.bytes, progress.changed) := by
  simp only [rewriteStep, rewrite, run]
  cases ClassFile.ofBytes progress.bytes with
  | error defect => rfl
  | ok c =>
    dsimp only
    cases hrun : p.weaving.run c with
    | mk result woven =>
      cases result with
      | error failure => rfl
      | ok _ =>
        dsimp only
        by_cases hsame : woven.toBytes = progress.bytes
        · rw [if_pos hsame]
          simp [hsame, bind, Except.bind, pure, Except.pure]
        · rw [if_neg hsame]
          simp [hsame, bind, Except.bind, pure, Except.pure]

/-- **Running passes is folding over buffers.** -/
theorem outcome_runAll (className : String) (passes : List Pass) (progress : Progress) :
    buffer (runAll className passes progress) =
      passes.foldlM (fun buffer p => rewriteStep (p.rewrite className) buffer) (progress.bytes, progress.changed) := by
  induction passes generalizing progress with
  | nil => rfl
  | cons p rest ih =>
    rw [List.foldlM_cons, outcome_run, runAll]
    cases hrun : p.run progress with
    | mk result after =>
      cases result with
      | error failure => rfl
      | ok _ => exact ih after

/-- The passes of transformers make what the specification makes of a class. -/
theorem outcome_runMarked (className : String) (transformers : List Transformer) (bytes : List UInt8) :
    buffer (runMarked className (transformers.map Transformer.pass) bytes) = rewriteAll className transformers bytes := by
  have hall : buffer (runAll className (transformers.map Transformer.pass) ⟨bytes, false, []⟩) =
      transformers.foldlM
        (fun buffer t => rewriteStep (Pass.rewrite ⟨t.data.pluginId ++ ":" ++ t.data.name, t.run⟩ className) buffer)
        (bytes, false) :=
    (outcome_runAll className _ ⟨bytes, false, []⟩).trans List.foldlM_map
  rw [rewriteAll, runMarked, ← hall]
  cases runAll className (transformers.map Transformer.pass) ⟨bytes, false, []⟩ with
  | mk result progress =>
    cases result with
    | error failure => rfl
    | ok _ =>
      have hmarker := outcome_runAll className [markerPass] progress
      simp only [List.foldlM_cons, List.foldlM_nil, bind_pure, rewrite_markerPass_eq] at hmarker
      show _ = if progress.changed then rewriteStep (marked className) (progress.bytes, progress.changed)
        else .ok (progress.bytes, progress.changed)
      rw [← hmarker]
      dsimp only
      split <;> rfl

end Pass

/-! ## Runs of an engine -/

/-- The answers of an engine to calls, each with the files after it. -/
def Engine.trace (e : Engine) (files : FileTree) : List EngineCall → List (Answer × FileTree)
  | [] => []
  | .accept blackboard config :: rest => (e.accept blackboard config).trace files rest
  | .transform table className bytes :: rest =>
    let dispatched := e.transform table className bytes files
    (dispatched.result, dispatched.files) :: dispatched.engine.trace dispatched.files rest

namespace Engine

/-- The engine holds what was accepted last, and no other index than the one of its transformers. -/
inductive Represents : Engine → Option (Blackboard × EngineConfig) → Prop
  | new : Represents .new none
  | accepted (a : Accepted) : a.IndexValid → Represents ⟨some a⟩ (some (a.blackboard, a.config))

/-- **One class**: the answer and the files are those of the specification, and the engine goes on holding what it
held. -/
theorem transform_refines {e : Engine} {accepted : Option (Blackboard × EngineConfig)} (h : e.Represents accepted)
    {table : InternTable}
    (hinterned : ∀ blackboard config, accepted = some (blackboard, config) →
      ∀ t ∈ blackboard.transformers, ∀ d ∈ t.targets, d ∈ table.types)
    (className : String) (bytes : List UInt8) (files : FileTree) :
    ((e.transform table className bytes files).result, (e.transform table className bytes files).files) =
        naive accepted className bytes files ∧
      (e.transform table className bytes files).engine.Represents accepted := by
  cases h with
  | new => exact ⟨rfl, .new⟩
  | accepted a hvalid =>
    simp only [transform, naive]
    by_cases hemergency : a.config.switches.emergencyMode = true
    · rw [if_pos hemergency, if_pos hemergency]
      exact ⟨rfl, .accepted a hvalid⟩
    · rw [if_neg hemergency, if_neg hemergency, Accepted.passes?_eq hvalid (hinterned _ _ rfl), isEnabled_eq]
      -- whatever comes of the class, the engine has kept its index by now
      have hkept : Represents ⟨some { a with index := some a.getIndex }⟩ (some (a.blackboard, a.config)) :=
        .accepted { a with index := some a.getIndex } hvalid.keep
      cases TypeDescriptor.of className with
      | error v => exact ⟨rfl, hkept⟩
      | ok d =>
        dsimp only
        by_cases hempty : (targeting a.blackboard.transformers d).isEmpty = true
        · rw [if_pos hempty, if_pos hempty]
          exact ⟨rfl, hkept⟩
        · rw [if_neg hempty, if_neg hempty, ← Pass.outcome_runMarked]
          dsimp only
          cases Pass.runMarked className _ bytes with
          | mk result progress =>
            cases result with
            | error failure => exact ⟨rfl, hkept⟩
            | ok _ =>
              dsimp only [Pass.buffer]
              rw [dump_eq]
              exact ⟨rfl, hkept⟩

/-- **Every run of an engine is one of the specification**, from the state that the specification keeps. -/
theorem trace_refines {e : Engine} {accepted : Option (Blackboard × EngineConfig)} (h : e.Represents accepted)
    (files : FileTree) (calls : List EngineCall) (hinterned : TargetsInterned accepted calls) :
    e.trace files calls = naiveTrace accepted files calls := by
  induction calls generalizing e accepted files with
  | nil => rfl
  | cons call rest ih =>
    cases call with
    -- accepting drops the index, so nothing is left of the transformers before
    | accept blackboard config => exact ih (.accepted ⟨blackboard, config, none⟩ nofun) files hinterned
    | transform table className bytes =>
      obtain ⟨hanswer, hengine⟩ := transform_refines h hinterned.1 className bytes files
      rw [trace, naiveTrace, ← hanswer]
      exact congrArg _ (ih hengine _ hinterned.2)

/-- **Dispatch refines its specification**: to every sequence of calls a new engine gives the answers, and leaves
the files, that the specification gives and leaves. -/
theorem run_refines (files : FileTree) (calls : List EngineCall) (hinterned : TargetsInterned none calls) :
    Engine.new.trace files calls = naiveTrace none files calls :=
  trace_refines .new files calls hinterned

/-- The class `A`. -/
def letterType : TypeDescriptor :=
  ⟨.object ⟨"A", rfl, rfl⟩, 0, TypeDescriptor.scalar_dimensions_lt, nofun⟩

/-- Names its target twice and gives it another version; it runs unless it is switched off. -/
def versionBump : Transformer :=
  ⟨⟨"p", "bump", none, true⟩, [letterType, letterType], none, fun c => (.ok (), { c with minorVersion := 1 })⟩

/-- Makes its target public and is off unless it is switched on. -/
def publication : Transformer :=
  ⟨⟨"p", "open", none, false⟩, [letterType], none, fun c => (.ok (), { c with access := c.access.widened })⟩

/-- Refuses every class. -/
def refusal : Transformer :=
  ⟨⟨"p", "refuse", none, true⟩, [letterType], none, Weaving.reject "no"⟩

/-- The bytes of `A`, which has no members. -/
def letterBytes : List UInt8 :=
  [0xCA, 0xFE, 0xBA, 0xBE, 0x00, 0x00, 0x00, 0x34, 0x00, 0x03, 0x01, 0x00, 0x01, 0x41, 0x07, 0x00, 0x01, 0x00, 0x20,
    0x00, 0x02, 0x00, 0x00, 0x00, 0x00, 0x00, 0x00, 0x00, 0x00, 0x00, 0x00]

/-- The class with another version, public and marked. -/
def markedLetterBytes : List UInt8 :=
  [0xCA, 0xFE, 0xBA, 0xBE, 0x00, 0x01, 0x00, 0x34, 0x00, 0x05, 0x01, 0x00, 0x01, 0x41, 0x07, 0x00, 0x01,
    0x01, 0x00, 0x1B] ++ "Lgraft/runtime/Transformed;".toUTF8.data.toList ++ [0x01, 0x00, 0x1B] ++
      "RuntimeInvisibleAnnotations".toUTF8.data.toList ++ [0x00, 0x21, 0x00, 0x02, 0x00, 0x00, 0x00, 0x00, 0x00, 0x00,
        0x00, 0x00, 0x00, 0x01, 0x00, 0x04, 0x00, 0x00, 0x00, 0x06, 0x00, 0x01, 0x00, 0x03, 0x00, 0x00]

/-- A class under one of its other spellings with one of its transformers switched on and one switched off, a class that is
no target, and no class at all; then the class in an emergency, and with all switches as they were made. -/
def letterCalls : List EngineCall :=
  let table : InternTable := ⟨#[letterType]⟩
  let blackboard : Blackboard := ⟨[], [versionBump, refusal, publication], .new [] (.static ⟨"/"⟩ [])⟩
  [.accept blackboard ⟨⟨true, false, false⟩, [("p:refuse", false), ("p:open", true)], ⟨"/dump"⟩⟩,
    .transform table "LA;" letterBytes, .transform table "B" letterBytes, .transform table "A" [],
    .accept blackboard ⟨⟨true, true, false⟩, [], ⟨"/dump"⟩⟩, .transform table "A" letterBytes,
    .accept blackboard ⟨⟨true, false, false⟩, [], ⟨"/dump"⟩⟩, .transform table "A" letterBytes]

/-- The answers, and the dump that the first of them leaves. -/
theorem run_refines_letter :
    let files : FileTree := ⟨[], []⟩
    let dumped : FileTree := ⟨[(["dump"], .directory), (["dump", "A.class"], .file (.bytes markedLetterBytes))], []⟩
    Engine.new.trace files letterCalls = naiveTrace none files letterCalls ∧
      Engine.new.trace files letterCalls =
        [(.ok (markedLetterBytes, .transformed), dumped), (.ok (letterBytes, .bypassed), dumped),
          (.error (.pass "p:bump" "A" (.classData (.truncated 0))), dumped), (.ok (letterBytes, .bypassed), dumped),
          (.error (.pass "p:refuse" "A" (.rejected "no")), dumped)] := by
  have hinterned : TargetsInterned none letterCalls := by
    simp [TargetsInterned, letterCalls, versionBump, refusal, publication]
  exact ⟨run_refines _ letterCalls hinterned, by decide +kernel⟩

end Engine

end ClassWeaver
