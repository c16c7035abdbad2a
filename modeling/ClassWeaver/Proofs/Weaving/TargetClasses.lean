import ClassWeaver.Plugin.Transformer
import ClassWeaver.Proofs.Engine.Dispatch
import ClassWeaver.Proofs.Weaving.AccessEffect

/-!
# The classes that a weaving names

A ready-made weaving is asked twice about classes: it names those that it may change, and when it is handed a class it
picks its targets by the identity of that class. The first answer decides which classes the engine hands it at all. The
two never disagree to a class's loss: a weaving is confined to what it names, since its picks are empty elsewhere.

## Contents

* `FirstMentions`, `firstMentions_eraseDups` — what is mentioned, each once, in the order of first mention.
* `ConfinedTo` — weavings that leave alone what they do not name; kept by sequences.
* `ReadyMade`, `ReadyMade.mentions`, `ReadyMade.confinedTo` — the ready-made weavings, and what they name.
* `Touches`, `ReadyMade.never_skipped` — a class that a weaving does something about is named, and gets to it.
-/

namespace ClassWeaver

open Identity

/-! ## First mentions -/

section

variable {α : Type} [DecidableEq α]

/-- A list of all that is mentioned, each once, in the order of first mention. -/
structure FirstMentions (mentions named : List α) : Prop where
  nodup : named.Nodup
  mem_iff : ∀ x, x ∈ named ↔ x ∈ mentions
  ordered : named.Pairwise fun x y => mentions.idxOf x < mentions.idxOf y

/-- It does not matter whether repeats are erased before some items are taken out or after. -/
theorem eraseDups_filter (keep : α → Bool) (l : List α) : (l.filter keep).eraseDups = l.eraseDups.filter keep := by
  match l with
  | [] => rfl
  | a :: l =>
    -- erasing goes on with the items other than the head, of which there are fewer
    have ih := eraseDups_filter keep (l.filter fun b => !b == a)
    rw [List.eraseDups_cons]
    by_cases ha : keep a = true
    · rw [List.filter_cons_of_pos ha, List.filter_cons_of_pos ha, List.eraseDups_cons, ← ih, List.filter_filter,
        List.filter_filter]
      simp only [Bool.and_comm]
    · rw [List.filter_cons_of_neg ha, List.filter_cons_of_neg ha, ← ih, List.filter_filter]
      congr 1
      -- the head is taken out, and its repeats with it
      refine List.filter_congr fun b hb => ?_
      by_cases hba : b = a
      · rw [hba, Bool.eq_false_iff.mpr ha, Bool.false_and]
      · simp [hba]
  termination_by l.length
  decreasing_by exact Nat.lt_succ_of_le (List.length_filter_le _ _)

/-- **Erasing repeats leaves the first mentions.** -/
theorem firstMentions_eraseDups (mentions : List α) : FirstMentions mentions mentions.eraseDups := by
  induction mentions with
  | nil => exact ⟨.nil, fun _ => .rfl, .nil⟩
  | cons a mentions ih =>
    have hcons : (a :: mentions).eraseDups = a :: mentions.eraseDups.filter (· != a) := by
      rw [List.eraseDups_cons]
      exact congrArg _ (eraseDups_filter _ _)
    have hne : ∀ x ∈ mentions.eraseDups.filter (· != a), x ≠ a := fun x hx => bne_iff_ne.mp (List.mem_filter.mp hx).2
    have hbehind : ∀ x, x ≠ a → (a :: mentions).idxOf x = mentions.idxOf x + 1 := by
      intro x hx
      rw [List.idxOf_cons, beq_eq_false_iff_ne.mpr hx.symm, cond_false]
    refine ⟨?_, fun x => List.mem_eraseDups, ?_⟩
    · rw [hcons]
      exact List.nodup_cons.mpr ⟨fun h => hne a h rfl, ih.nodup.filter _⟩
    · rw [hcons]
      refine List.pairwise_cons.mpr ⟨fun x hx => ?_, ?_⟩
      · rw [hbehind x (hne x hx), List.idxOf_cons_self]
        exact Nat.succ_pos _
      · refine (ih.ordered.filter _).imp_of_mem fun hx hy hlt => ?_
        rw [hbehind _ (hne _ hx), hbehind _ (hne _ hy)]
        exact Nat.succ_lt_succ hlt

end

/-! ## Confined weavings -/

/-- A weaving that does nothing about classes that are not in the list. Classes that have no identity it refuses. -/
structure Weaving.ConfinedTo (classes : List TypeDescriptor) (w : Weaving Unit) : Prop where
  refuses : ∀ c e, c.typeDescriptor = .error e → w c = (.error (.classData e), c)
  skips : ∀ c d, c.typeDescriptor = .ok d → d ∉ classes → w c = (.ok (), c)

namespace Weaving

variable {classes more : List TypeDescriptor} {v w : Weaving Unit}

theorem ConfinedTo.mono (h : w.ConfinedTo classes) (hsub : ∀ d ∈ classes, d ∈ more) : w.ConfinedTo more where
  refuses := h.refuses
  skips c d hd hnot := h.skips c d hd fun hmem => hnot (hsub d hmem)

/-- One after the other, both are confined to what either names. -/
theorem ConfinedTo.append (hv : v.ConfinedTo classes) (hw : w.ConfinedTo more) :
    ConfinedTo (classes ++ more) (do v; w) where
  refuses c e he := by
    rw [Edits.bind_eq, hv.refuses c e he]
  skips c d hd hnot := by
    have hleft := hv.skips c d hd fun hmem => hnot (List.mem_append_left _ hmem)
    exact (Edits.bind_of_eq_ok hleft).trans (hw.skips c d hd fun hmem => hnot (List.mem_append_right _ hmem))

/-- A weaving that first reads who the class is, and then does nothing unless it is in the list. -/
theorem confinedTo_of_identity {steps : TypeDescriptor → Weaving Unit}
    (h : ∀ d, d ∉ classes → ∀ c, steps d c = (.ok (), c)) :
    ConfinedTo classes (do steps (← ofResult (← get).typeDescriptor)) where
  refuses c e he := by
    rw [Edits.get_bind, Edits.bind_eq, ofResult, he]
    rfl
  skips c d hd hnot := by
    have hread : ofResult c.typeDescriptor c = (.ok d, c) := ofResult_eq_ok.mpr ⟨hd, rfl⟩
    rw [Edits.get_bind, Edits.bind_of_eq_ok hread, h d hnot c]

end Weaving

/-- What plays a part nowhere is not picked. -/
theorem filter_eq_nil_of_notMem {τ : Type} {f : τ → TypeDescriptor} {targets : List τ} {d : TypeDescriptor}
    (h : ∀ t ∈ targets, f t ≠ d) : (targets.filter fun t => f t = d) = [] := by
  rw [List.filter_eq_nil_iff]
  exact fun t ht => by simpa using h t ht

/-- **Targets are served in classes that own or host them**, and nowhere else. -/
theorem Role.confinedTo {τ : Type} (r : Role τ) (targets : List τ) :
    (r.apply targets).ConfinedTo (r.classes targets) := by
  refine Weaving.confinedTo_of_identity fun d hnot c => ?_
  have hmem : ∀ t ∈ targets, r.owner t ≠ d ∧ r.accessorOwner t ≠ d := by
    refine fun t ht => ⟨?_, ?_⟩
    all_goals
      rintro rfl
      exact hnot (List.mem_flatMap.mpr ⟨t, ht, by simp⟩)
  rw [filter_eq_nil_of_notMem fun t ht => (hmem t ht).1, filter_eq_nil_of_notMem fun t ht => (hmem t ht).2]
  rfl

/-- **Patches are applied to the classes of their methods**, whatever they do there. -/
theorem MethodPatches.confinedTo (ps : MethodPatches) :
    ps.apply.ConfinedTo (ps.map MethodPatch.owner) := by
  refine Weaving.confinedTo_of_identity fun d hnot c => ?_
  rw [filter_eq_nil_of_notMem (f := MethodPatch.owner)]
  · rfl
  · rintro p hp rfl
    exact hnot (List.mem_map_of_mem hp)

/-! ## Ready-made weavings -/

/-- The ready-made weavings, those for targets of one kind included. -/
inductive ReadyMade
  | fields (targets : List FieldTarget)
  | methods (targets : List MethodTarget)
  | prefab (p : Prefab)

namespace ReadyMade

/-- The classes that the weaving says it may change. -/
def targetClasses : ReadyMade → List TypeDescriptor
  | fields targets => (Role.fields.classes targets).eraseDups
  | methods targets => (Role.methods.classes targets).eraseDups
  | prefab p => p.targetClasses

/-- Changes the class at hand. -/
def apply : ReadyMade → Weaving Unit
  | fields targets => Role.fields.apply targets
  | methods targets => Role.methods.apply targets
  | prefab p => p.apply

/-- The owners and the hosts of accessors as the targets mention them, and the owners of patched methods. -/
def mentions : ReadyMade → List TypeDescriptor
  | fields targets => targets.flatMap fun t => [t.owner, t.accessorOwner]
  | methods targets => targets.flatMap fun t => [t.owner, t.accessorOwner]
  | prefab (.access a) =>
    (a.fields.flatMap fun t => [t.owner, t.accessorOwner]) ++ a.methods.flatMap fun t => [t.owner, t.accessorOwner]
  | prefab (.patches ps) => ps.map MethodPatch.owner

/-- The transformer that is registered for the weaving. -/
def transformer (r : ReadyMade) (data : TransformerData) (settings : Option Settings) : Transformer :=
  ⟨data, r.targetClasses, settings, r.apply⟩

/-- What is registered for a prefab is the transformer of that prefab. -/
theorem transformer_prefab (p : Prefab) (data : TransformerData) (settings : Option Settings) :
    (prefab p).transformer data settings = .ofPrefab data p settings :=
  rfl

theorem targetClasses_eq (r : ReadyMade) : r.targetClasses = r.mentions.eraseDups := by
  match r with
  | fields _ | methods _ | prefab (.access _) | prefab (.patches _) => rfl

/-- **A ready-made weaving is confined to the classes that it names.** -/
theorem confinedTo (r : ReadyMade) : r.apply.ConfinedTo r.targetClasses := by
  have hmentions : r.apply.ConfinedTo r.mentions := by
    match r with
    | fields targets => exact Role.fields.confinedTo targets
    | methods targets => exact Role.methods.confinedTo targets
    | prefab (.access a) => exact (Role.fields.confinedTo a.fields).append (Role.methods.confinedTo a.methods)
    | prefab (.patches ps) => exact MethodPatches.confinedTo ps
  refine hmentions.mono fun d hd => ?_
  rw [targetClasses_eq, List.mem_eraseDups]
  exact hd

end ReadyMade

/-! ## Classes that get to a weaving -/

/-- A weaving does something about a class: it changes the class, or it fails for another reason than that the class has
no identity. -/
def Weaving.Touches (w : Weaving Unit) (c : ClassFile) : Prop :=
  (w c).2 ≠ c ∨ ∃ failure, (w c).1 = .error failure ∧ ∀ e, c.typeDescriptor = .error e → failure ≠ .classData e

/-- A confined weaving touches no other classes. -/
theorem Weaving.ConfinedTo.mem_of_touches {classes : List TypeDescriptor} {w : Weaving Unit} {c : ClassFile}
    (h : w.ConfinedTo classes) (htouches : w.Touches c) : ∃ d, c.typeDescriptor = .ok d ∧ d ∈ classes := by
  cases hd : c.typeDescriptor with
  | error e =>
    rw [Touches, h.refuses c e hd] at htouches
    rcases htouches with hchanged | ⟨failure, hfailure, hother⟩
    · exact absurd rfl hchanged
    · cases hfailure
      exact absurd rfl (hother e hd)
  | ok d =>
    refine ⟨d, rfl, Decidable.not_not.mp fun hnot => ?_⟩
    rw [Touches, h.skips c d hd hnot] at htouches
    rcases htouches with hchanged | ⟨failure, hfailure, -⟩
    · exact hchanged rfl
    · cases hfailure

namespace Engine

variable {e : Engine} {blackboard : Blackboard} {config : EngineConfig} {table : InternTable} {className : String}
  {d : TypeDescriptor} {t : Transformer}

/-- A class gets to the transformers that target it: it is not passed by, and the passes over it have those of them that
are switched on. -/
structure Reaches (e : Engine) (config : EngineConfig) (table : InternTable) (className : String) (d : TypeDescriptor)
    (t : Transformer) : Prop where
  selected : ∃ a passes, e.accepted = some a ∧ a.passes? table className = some (d, passes) ∧
    (config.isEnabled t = true → t.pass ∈ passes)
  not_bypassed : config.switches.emergencyMode = false → ∀ bytes files written,
    (e.transform table className bytes files).result ≠ .ok (written, .bypassed)

theorem reaches_of_target (h : e.Represents (some (blackboard, config)))
    (hinterned : ∀ t ∈ blackboard.transformers, ∀ d ∈ t.targets, d ∈ table.types)
    (hname : TypeDescriptor.of className = .ok d) (ht : t ∈ blackboard.transformers) (hd : d ∈ t.targets) :
    e.Reaches config table className d t := by
  cases h with
  | accepted a hvalid =>
    have hchosen : t ∈ targeting a.blackboard.transformers d := List.mem_filter.mpr ⟨ht, decide_eq_true hd⟩
    have hnonempty : (targeting a.blackboard.transformers d).isEmpty = false :=
      List.isEmpty_eq_false_iff.mpr (List.ne_nil_of_mem hchosen)
    -- table and index select what reading the name selects
    have hpasses : a.passes? table className =
        some (d, ((targeting a.blackboard.transformers d).filter a.config.isEnabled).map Transformer.pass) := by
      rw [Accepted.passes?_eq hvalid hinterned, hname]
      dsimp only
      rw [hnonempty]
      rfl
    refine ⟨⟨a, _, rfl, hpasses, fun henabled => ?_⟩, fun hemergency bytes files written => ?_⟩
    · exact List.mem_map_of_mem (List.mem_filter.mpr ⟨hchosen, henabled⟩)
    · simp only [transform, hemergency, hpasses, Bool.false_eq_true, if_false]
      intro h
      split at h
      · cases h
      · dsimp only at h
        split at h <;> cases h

end Engine

/-- **No class is skipped that a ready-made weaving does something about.** The weaving names just what its targets
mention, once and in the order of first mention. A class that it touches, be it by a failure, has an identity, and is
named by it; so an engine with the weaving registered lets the class get to it, under every spelling of its name. -/
theorem ReadyMade.never_skipped (r : ReadyMade) :
    FirstMentions r.mentions r.targetClasses ∧
      ∀ c, r.apply.Touches c → ∃ d, c.typeDescriptor = .ok d ∧ d ∈ r.targetClasses ∧
        ∀ (data : TransformerData) (settings : Option Settings) (e : Engine) (blackboard : Blackboard)
          (config : EngineConfig) (table : InternTable) (className : String),
          e.Represents (some (blackboard, config)) →
            (∀ t ∈ blackboard.transformers, ∀ d ∈ t.targets, d ∈ table.types) →
              r.transformer data settings ∈ blackboard.transformers → TypeDescriptor.of className = .ok d →
                e.Reaches config table className d (r.transformer data settings) := by
  refine ⟨r.targetClasses_eq ▸ firstMentions_eraseDups r.mentions, fun c htouches => ?_⟩
  obtain ⟨d, hd, hnamed⟩ := r.confinedTo.mem_of_touches htouches
  refine ⟨d, hd, hnamed, ?_⟩
  intro data settings e blackboard config table className hengine hinterned hregistered hname
  exact Engine.reaches_of_target hengine hinterned hname hregistered hnamed

/-- The weaving that serves the fields and the method of `A`. -/
def keeperOpening : ReadyMade :=
  .prefab (.access (.ofTargets keeperTargets))

/-- Its transformer. -/
def keeperTransformer : Transformer :=
  .ofPrefab ⟨"p", "open", none, true⟩ (.access (.ofTargets keeperTargets)) none

/-- The six mentions of `A` come to one, and the class gets to the weaving that changes it. -/
theorem never_skipped_keeper :
    keeperOpening.apply.Touches keeper ∧ keeperOpening.mentions.length = 6 ∧
      FirstMentions keeperOpening.mentions [keeperType] ∧
      (Engine.new.accept ⟨[], [keeperTransformer], .new [] (.static ⟨"/"⟩ [])⟩ ⟨⟨false, false, false⟩, [], ⟨"/dump"⟩⟩).Reaches
        ⟨⟨false, false, false⟩, [], ⟨"/dump"⟩⟩ ⟨#[keeperType]⟩ "LA;" keeperType keeperTransformer := by
  have htouches : keeperOpening.apply.Touches keeper := by
    have happly : keeperOpening.apply keeper = (.ok (), openKeeper) := apply_keeper
    rw [Weaving.Touches, happly]
    exact .inl fun h => absurd (congrArg ClassFile.fields h) (by decide)
  obtain ⟨hmentions, hall⟩ := keeperOpening.never_skipped
  refine ⟨htouches, rfl, hmentions, ?_⟩
  obtain ⟨d, hd, -, hreaches⟩ := hall keeper htouches
  obtain rfl : keeperType = d := Except.ok.inj hd
  rw [keeperTransformer, ← ReadyMade.transformer_prefab]
  refine hreaches ⟨"p", "open", none, true⟩ none _ ⟨[], [_], .new [] (.static ⟨"/"⟩ [])⟩ _ _ "LA;"
    (.accepted _ nofun) ?_ (List.mem_singleton_self _) rfl
  intro t ht d hd
  obtain rfl := List.mem_singleton.mp ht
  obtain rfl : d = keeperType := List.mem_singleton.mp hd
  simp

end ClassWeaver
