import ClassWeaver.Registry.Blackboard

/-!
# What is known of accepted plugins

The rounds that plugins go through are searches for the first fault, so plugins that pass have none: every transformer
belongs to the plugin that brings it and is for some class, and no two transformers have a name in common.

## Contents

* `checkTransformers_eq_ok_iff` — what the round over the transformers asks for.
* `Accepted`, `Accepted.nodup_names`, `Accepted.exists_owner` — blackboards that acceptance gives.
-/

namespace ClassWeaver.Blackboard

variable {plugins : List DiscoveredPlugin} {host : Host} {b : Blackboard} {t : Transformer}

/-- **The round over the transformers**: each belongs to its plugin and is for some class, and the names differ. -/
theorem checkTransformers_eq_ok_iff {seen : List String} {entries : List (String × Transformer)} (hseen : seen.Nodup) :
    checkTransformers seen entries = .ok () ↔
      (∀ entry ∈ entries, entry.2.data.pluginId = entry.1 ∧ entry.2.targets.isEmpty = false) ∧
        (seen ++ entries.map fun entry => entry.2.registryName).Nodup := by
  induction entries generalizing seen with
  | nil => simp [checkTransformers, hseen]
  | cons entry entries ih =>
    obtain ⟨plugin, t⟩ := entry
    unfold checkTransformers
    rw [List.forall_mem_cons]
    by_cases howner : t.data.pluginId ≠ plugin
    · rw [if_pos howner]
      exact iff_of_false nofun fun h => howner h.1.1.1
    rw [if_neg howner]
    by_cases htargets : t.targets.isEmpty = true
    · rw [if_pos htargets]
      exact iff_of_false nofun fun h => by simp [htargets] at h
    rw [if_neg htargets]
    rw [List.map_cons, List.append_cons seen t.registryName (entries.map fun entry => entry.2.registryName)]
    by_cases hname : t.registryName ∈ seen
    · rw [if_pos (by simpa using hname)]
      refine iff_of_false nofun fun h => ?_
      have hfront := (List.nodup_append.mp h.2).1
      exact (List.nodup_append.mp hfront).2.2 _ hname _ List.mem_cons_self rfl
    · have hseen' : (seen ++ [t.registryName]).Nodup := by
        rw [List.nodup_append]
        refine ⟨hseen, List.nodup_cons.mpr ⟨List.not_mem_nil, List.nodup_nil⟩, ?_⟩
        intro name hmem other hother heq
        rw [heq, List.mem_singleton.mp hother] at hmem
        exact hname hmem
      rw [if_neg (by simpa using hname), ih hseen']
      exact and_congr_left fun _ => (and_iff_right ⟨Decidable.not_not.mp howner, by simpa using htargets⟩).symm

/-- Plugins that were accepted together. -/
def Accepted (b : Blackboard) : Prop :=
  ∃ plugins host, (accept plugins host).1 = .ok b

theorem accept_eq_ok (h : (accept plugins host).1 = .ok b) :
    checkTransformers [] (contributed plugins) = .ok () ∧ b.plugins = plugins ∧
      b.transformers = (contributed plugins).map Prod.snd := by
  unfold accept at h
  dsimp only at h
  split at h
  · cases h
  split at h
  · cases h
  rename_i hchecked
  split at h
  · cases h
  · cases h
    exact ⟨hchecked, rfl, rfl⟩

namespace Accepted

/-- **No two accepted transformers have a name in common.** -/
theorem nodup_names (h : b.Accepted) : (b.transformers.map Transformer.registryName).Nodup := by
  obtain ⟨plugins, host, h⟩ := h
  obtain ⟨hchecked, -, htransformers⟩ := accept_eq_ok h
  have hnames := ((checkTransformers_eq_ok_iff List.nodup_nil).mp hchecked).2
  rw [htransformers, List.map_map]
  exact hnames

/-- **An accepted transformer belongs to an accepted plugin**, the one that brought it. -/
theorem exists_owner (h : b.Accepted) (ht : t ∈ b.transformers) :
    ∃ d ∈ b.plugins, t ∈ d.plugin.transformers ∧ t.data.pluginId = d.id := by
  obtain ⟨plugins, host, h⟩ := h
  obtain ⟨hchecked, hplugins, htransformers⟩ := accept_eq_ok h
  rw [htransformers] at ht
  obtain ⟨⟨id, t⟩, hentry, rfl⟩ := List.mem_map.mp ht
  have howner := (((checkTransformers_eq_ok_iff List.nodup_nil).mp hchecked).1 _ hentry).1
  obtain ⟨d, hd, hbrought⟩ := List.mem_flatMap.mp hentry
  obtain ⟨t', ht', heq⟩ := List.mem_map.mp hbrought
  cases heq
  exact ⟨d, hplugins ▸ hd, ht', howner⟩

end Accepted

end ClassWeaver.Blackboard
