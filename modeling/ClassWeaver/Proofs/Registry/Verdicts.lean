import ClassWeaver.Proofs.Edits
import ClassWeaver.Proofs.Registry.SettingsPaths
import Mathlib.Data.List.Nodup

/-!
# Acceptance and refusal

Plugins are accepted together exactly if nothing is wrong with them, and of all that is wrong the first is reported. The
three rounds are searches: each goes through its list from the front, and what it has passed is sound. So a refusal is told
by a place in the list of one round, all rounds before it having passed. Plugins are asked one after the other, in the
environment that the plugins in front have left.

## Contents

* `search`, `search_eq_error_iff` — searches for the first element that is refused.
* `checkIds_eq_ok_iff`, `checkIds_eq_error_iff` — the round over the ids.
* `Sound`, `Fault`, `checkTransformers_eq_error_iff` — the round over the transformers.
* `after`, `Agree`, `askPlugins_eq_ok_iff`, `askPlugins_eq_error_iff` — the round of questions.
* `registryName_inj` — a name among all transformers tells plugin and transformer.
* `Refused`, `accept_exact` — all rounds.
-/

namespace ClassWeaver

open Identity

/-! ## Searches -/

/-- Goes through a list from the front, up to the first element that is refused. -/
def search {σ α ε : Type} (judge : σ → α → Except ε Unit) (next : σ → α → σ) (s : σ) : List α → Except ε Unit
  | [] => .ok ()
  | a :: rest => do
    judge s a
    search judge next (next s a) rest

section

variable {σ α ε : Type} {judge : σ → α → Except ε Unit} {next : σ → α → σ} {s : σ} {l : List α} {failure : ε}

theorem search_cons {a : α} {rest : List α} :
    search judge next s (a :: rest) = judge s a >>= fun _ => search judge next (next s a) rest :=
  rfl

/-- **A search refuses the first element that is refused** in the state that the elements in front have led to. -/
theorem search_eq_error_iff : search judge next s l = .error failure ↔
    ∃ front a back, l = front ++ a :: back ∧ search judge next s front = .ok () ∧
      judge (front.foldl next s) a = .error failure := by
  induction l generalizing s with
  | nil =>
    refine iff_of_false nofun ?_
    rintro ⟨front, a, back, h, -⟩
    simp at h
  | cons a rest ih =>
    rw [search_cons, except_bind_eq_error]
    constructor
    · rintro (h | ⟨⟨⟩, hjudge, h⟩)
      · exact ⟨[], a, rest, rfl, rfl, h⟩
      · obtain ⟨front, a', back, rfl, hfront, h⟩ := ih.mp h
        refine ⟨a :: front, a', back, rfl, ?_, h⟩
        rw [search_cons, except_bind_eq_ok]
        exact ⟨(), hjudge, hfront⟩
    · rintro ⟨front, a', back, hl, hfront, h⟩
      cases front with
      | nil =>
        cases hl
        exact .inl h
      | cons a'' front =>
        cases hl
        rw [search_cons, except_bind_eq_ok] at hfront
        obtain ⟨⟨⟩, hjudge, hfront⟩ := hfront
        exact .inr ⟨(), hjudge, ih.mpr ⟨front, a', back, rfl, hfront, h⟩⟩

end

/-- A search that keeps what it has seen of the elements in front. -/
theorem foldl_concat {α β : Type} (f : α → β) (seen : List β) (l : List α) :
    l.foldl (fun seen a => seen ++ [f a]) seen = seen ++ l.map f := by
  induction l generalizing seen with
  | nil => simp
  | cons a rest ih => simp [ih]

namespace Blackboard

variable {plugins seen : List DiscoveredPlugin} {d : DiscoveredPlugin} {failure : RegistryFailure} {e : Environment}

/-! ## Ids -/

/-- Behind plugins with different ids, one more has an id of its own or that of a plugin in front. -/
theorem nodup_concat_iff : ((seen ++ [d]).map DiscoveredPlugin.id).Nodup ↔
    (seen.map DiscoveredPlugin.id).Nodup ∧ ∀ first ∈ seen, first.id ≠ d.id := by
  rw [List.map_append, List.nodup_append]
  simp

/-- **The round over the ids** passes plugins whose ids are all different. -/
theorem checkIds_eq_ok_iff (hseen : (seen.map DiscoveredPlugin.id).Nodup) :
    checkIds seen plugins = .ok () ↔ ((seen ++ plugins).map DiscoveredPlugin.id).Nodup := by
  induction plugins generalizing seen with
  | nil => simp [checkIds, hseen]
  | cons d rest ih =>
    rw [List.append_cons seen d rest]
    unfold checkIds
    split
    · rename_i first hfind
      refine iff_of_false nofun fun h => ?_
      rw [List.map_append] at h
      have hfront := nodup_concat_iff.mp (List.nodup_append.mp h).1
      exact hfront.2 first (List.mem_of_find?_eq_some hfind) (by simpa using List.find?_some hfind)
    · rename_i hfind
      have hfresh : ∀ first ∈ seen, first.id ≠ d.id := by simpa using hfind
      exact ih (nodup_concat_iff.mpr ⟨hseen, hfresh⟩)

theorem checkIds_nil_eq_ok_iff : checkIds [] plugins = .ok () ↔ (plugins.map DiscoveredPlugin.id).Nodup :=
  checkIds_eq_ok_iff List.nodup_nil

/-- Among plugins with different ids, the first one of an id is the only one. -/
theorem find?_id_eq_some_iff {first : DiscoveredPlugin} {id : String} (hseen : (seen.map DiscoveredPlugin.id).Nodup) :
    (seen.find? fun e => e.id == id) = some first ↔ first ∈ seen ∧ first.id = id := by
  constructor
  · intro h
    exact ⟨List.mem_of_find?_eq_some h, by simpa using List.find?_some h⟩
  · rintro ⟨hmem, hid⟩
    obtain ⟨other, hother⟩ : ∃ other, (seen.find? fun e => e.id == id) = some other :=
      Option.isSome_iff_exists.mp (List.find?_isSome.mpr ⟨first, hmem, by simpa using hid⟩)
    have hid' : other.id = id := by simpa using List.find?_some hother
    rw [hother, List.inj_on_of_nodup_map hseen (List.mem_of_find?_eq_some hother) hmem (hid'.trans hid.symm)]

/-- What the round over the ids says of a plugin behind others. -/
def judgeId (seen : List DiscoveredPlugin) (d : DiscoveredPlugin) : Except RegistryFailure Unit :=
  match seen.find? fun e => e.id == d.id with
  | some first => .error (.duplicatePlugin d.id first.describe d.describe)
  | none => .ok ()

theorem checkIds_eq_search : checkIds seen plugins = search judgeId (fun seen d => seen ++ [d]) seen plugins := by
  induction plugins generalizing seen with
  | nil => rfl
  | cons d rest ih =>
    rw [search_cons, ← ih, checkIds, judgeId]
    cases seen.find? fun e => e.id == d.id with
    | some first => rfl
    | none => rfl

/-- **It refuses the first plugin whose id is taken**, and names the plugin in front that has it. -/
theorem checkIds_eq_error_iff : checkIds [] plugins = .error failure ↔
    ∃ front d back first, plugins = front ++ d :: back ∧ (front.map DiscoveredPlugin.id).Nodup ∧ first ∈ front ∧
      first.id = d.id ∧ failure = .duplicatePlugin d.id first.describe d.describe := by
  have hstate (front : List DiscoveredPlugin) : front.foldl (fun seen d => seen ++ [d]) [] = front := by
    simpa using foldl_concat id [] front
  rw [checkIds_eq_search, search_eq_error_iff]
  simp only [← checkIds_eq_search, hstate, checkIds_nil_eq_ok_iff]
  constructor
  · rintro ⟨front, d, back, rfl, hfront, h⟩
    unfold judgeId at h
    split at h
    · rename_i first hfind
      cases h
      obtain ⟨hmem, hid⟩ := (find?_id_eq_some_iff hfront).mp hfind
      exact ⟨front, d, back, first, rfl, hfront, hmem, hid, rfl⟩
    · cases h
  · rintro ⟨front, d, back, first, rfl, hfront, hmem, hid, rfl⟩
    refine ⟨front, d, back, rfl, hfront, ?_⟩
    unfold judgeId
    rw [(find?_id_eq_some_iff hfront).mpr ⟨hmem, hid⟩]

/-! ## Transformers -/

/-- Transformers, each with the id of the plugin that brings it, that have no fault: each belongs to its plugin and is for
some class, and no two have a name in common. -/
structure Sound (entries : List (String × Transformer)) : Prop where
  owned : ∀ entry ∈ entries, entry.2.data.pluginId = entry.1
  targeted : ∀ entry ∈ entries, entry.2.targets ≠ []
  names : (entries.map fun entry => entry.2.registryName).Nodup

theorem checkTransformers_nil_eq_ok_iff {entries : List (String × Transformer)} :
    checkTransformers [] entries = .ok () ↔ Sound entries := by
  rw [checkTransformers_eq_ok_iff List.nodup_nil, List.nil_append]
  constructor
  · rintro ⟨hentries, hnames⟩
    exact ⟨fun entry hentry => (hentries entry hentry).1, fun entry hentry => by simpa using (hentries entry hentry).2, hnames⟩
  · rintro ⟨howned, htargeted, hnames⟩
    exact ⟨fun entry hentry => ⟨howned entry hentry, by simpa using htargeted entry hentry⟩, hnames⟩

/-- What is wrong with a transformer behind some names: the owner is looked at first, then the targets, then the name. -/
inductive Fault (names : List String) (plugin : String) (t : Transformer) : RegistryFailure → Prop
  | foreign (howner : t.data.pluginId ≠ plugin) : Fault names plugin t (.foreignTransformer t.registryName plugin)
  | untargeted (howner : t.data.pluginId = plugin) (htargets : t.targets = []) :
    Fault names plugin t (.noTargets t.registryName)
  | repeated (howner : t.data.pluginId = plugin) (htargets : t.targets ≠ []) (hname : t.registryName ∈ names) :
    Fault names plugin t (.duplicateTransformer t.registryName)

/-- What the round over the transformers says of one behind some names. -/
def judgeTransformer (names : List String) (entry : String × Transformer) : Except RegistryFailure Unit :=
  if entry.2.data.pluginId ≠ entry.1 then .error (.foreignTransformer entry.2.registryName entry.1)
  else if entry.2.targets.isEmpty then .error (.noTargets entry.2.registryName)
  else if names.contains entry.2.registryName then .error (.duplicateTransformer entry.2.registryName)
  else .ok ()

theorem judgeTransformer_eq_error_iff {names : List String} {plugin : String} {t : Transformer} :
    judgeTransformer names (plugin, t) = .error failure ↔ Fault names plugin t failure := by
  unfold judgeTransformer
  constructor
  · intro h
    split at h
    · rename_i howner
      cases h
      exact .foreign howner
    rename_i howner
    split at h
    · rename_i htargets
      cases h
      exact .untargeted (not_not.mp howner) (by simpa using htargets)
    rename_i htargets
    split at h
    · rename_i hname
      cases h
      exact .repeated (not_not.mp howner) (by simpa using htargets) (by simpa using hname)
    · cases h
  · rintro (howner | ⟨howner, htargets⟩ | ⟨howner, htargets, hname⟩)
    · exact if_pos howner
    · rw [if_neg (not_not.mpr howner), if_pos (by simpa using htargets)]
    · rw [if_neg (not_not.mpr howner), if_neg (by simpa using htargets), if_pos (by simpa using hname)]

theorem checkTransformers_eq_search {names : List String} {entries : List (String × Transformer)} :
    checkTransformers names entries =
      search judgeTransformer (fun names entry => names ++ [entry.2.registryName]) names entries := by
  induction entries generalizing names with
  | nil => rfl
  | cons entry rest ih =>
    rw [search_cons, ← ih, checkTransformers, judgeTransformer]
    split_ifs
    · rfl
    · rfl
    · rfl
    · rfl

/-- **The round over the transformers refuses the first one that has a fault** behind the names in front. -/
theorem checkTransformers_eq_error_iff {entries : List (String × Transformer)} :
    checkTransformers [] entries = .error failure ↔
      ∃ front plugin t back, entries = front ++ (plugin, t) :: back ∧ Sound front ∧
        Fault (front.map fun entry => entry.2.registryName) plugin t failure := by
  rw [checkTransformers_eq_search, search_eq_error_iff]
  simp only [← checkTransformers_eq_search, foldl_concat, List.nil_append, checkTransformers_nil_eq_ok_iff]
  constructor
  · rintro ⟨front, ⟨plugin, t⟩, back, hentries, hfront, h⟩
    exact ⟨front, plugin, t, back, hentries, hfront, judgeTransformer_eq_error_iff.mp h⟩
  · rintro ⟨front, plugin, t, back, hentries, hfront, h⟩
    exact ⟨front, (plugin, t), back, hentries, hfront, judgeTransformer_eq_error_iff.mpr h⟩

/-! ## Questions -/

/-- The environment after some plugins were asked. -/
def after (plugins : List DiscoveredPlugin) (e : Environment) : Environment :=
  plugins.foldl (fun e d => (d.plugin.objection e).2) e

/-- What the round of questions hears from a plugin. -/
def judgeEnvironment (e : Environment) (d : DiscoveredPlugin) : Except RegistryFailure Unit :=
  match (d.plugin.objection e).1 with
  | some reason => .error (.incompatibleEnvironment d.id reason)
  | none => .ok ()

/-- No plugin objects to the environment that the plugins in front have left. -/
def Agree : List DiscoveredPlugin → Environment → Prop
  | [], _ => True
  | d :: rest, e => (d.plugin.objection e).1 = none ∧ Agree rest (d.plugin.objection e).2

theorem askPlugins_eq_search :
    (askPlugins plugins e).1 = search judgeEnvironment (fun e d => (d.plugin.objection e).2) e plugins := by
  induction plugins generalizing e with
  | nil => rfl
  | cons d rest ih =>
    rw [search_cons, ← ih, askPlugins, judgeEnvironment]
    rcases d.plugin.objection e with ⟨_ | reason, e'⟩
    · rfl
    · rfl

/-- **The round of questions** passes plugins that agree. -/
theorem askPlugins_eq_ok_iff : (askPlugins plugins e).1 = .ok () ↔ Agree plugins e := by
  induction plugins generalizing e with
  | nil => exact iff_of_true rfl trivial
  | cons d rest ih =>
    unfold askPlugins Agree
    rcases d.plugin.objection e with ⟨_ | reason, e'⟩
    · simpa using ih
    · exact iff_of_false nofun nofun

/-- **It refuses with the first objection.** -/
theorem askPlugins_eq_error_iff : (askPlugins plugins e).1 = .error failure ↔
    ∃ front d back reason, plugins = front ++ d :: back ∧ Agree front e ∧
      (d.plugin.objection (after front e)).1 = some reason ∧ failure = .incompatibleEnvironment d.id reason := by
  rw [askPlugins_eq_search, search_eq_error_iff]
  simp only [← askPlugins_eq_search, askPlugins_eq_ok_iff]
  constructor
  · rintro ⟨front, d, back, rfl, hfront, h⟩
    unfold judgeEnvironment at h
    split at h
    · rename_i reason hreason
      cases h
      exact ⟨front, d, back, reason, rfl, hfront, hreason, rfl⟩
    · cases h
  · rintro ⟨front, d, back, reason, rfl, hfront, hreason, rfl⟩
    refine ⟨front, d, back, rfl, hfront, ?_⟩
    unfold judgeEnvironment
    unfold after at hreason
    rw [hreason]

/-- Where plugins make up their minds without asking, they agree if none of them objects. -/
theorem agree_iff_of_pure {veto : DiscoveredPlugin → Option String}
    (h : ∀ d ∈ plugins, d.plugin.objection = pure (veto d)) : Agree plugins e ↔ ∀ d ∈ plugins, veto d = none := by
  induction plugins with
  | nil => exact iff_of_true trivial nofun
  | cons d rest ih =>
    rw [List.forall_mem_cons] at h ⊢
    unfold Agree
    rw [h.1]
    exact and_congr_right fun _ => ih h.2

end Blackboard

/-! ## Names of transformers -/

theorem Identity.TransformerData.Checked.colon_notMem {data : TransformerData} (h : data.Checked) :
    ':' ∉ data.name.toList :=
  h.sound.noColon

/-- **A name among all transformers tells the plugin and the transformer**, as neither has a colon in it; it is enough that
one of the two transformers passed the checks. -/
theorem registryName_inj {data data' : TransformerData} (h : data.Checked) :
    data.registryName = data'.registryName ↔ (data.pluginId, data.name) = (data'.pluginId, data'.name) := by
  have hid : ':' ∉ data.pluginId.toList := by
    intro hcolon
    cases isIdChar_of_mem h.isPluginId hcolon
  constructor
  · intro heq
    have hchars := congrArg String.toList heq
    simp only [TransformerData.registryName, String.toList_append, List.append_assoc] at hchars
    obtain ⟨hids, -, hnames⟩ := (List.append_cons_inj_of_notMem hid h.colon_notMem).mp hchars
    exact Prod.ext (String.toList_inj.mp hids) (String.toList_inj.mp hnames)
  · intro heq
    obtain ⟨hids, hnames⟩ := Prod.mk.inj heq
    unfold TransformerData.registryName
    rw [hids, hnames]

namespace Blackboard

variable {plugins : List DiscoveredPlugin} {host : Host} {failure : RegistryFailure} {b : Blackboard}

/-! ## All rounds -/

/-- Plugins are refused: the rounds in front have passed all plugins, and this one has passed what is in front. -/
inductive Refused (plugins : List DiscoveredPlugin) (host : Host) : RegistryFailure → Prop
  | id {front back : List DiscoveredPlugin} {d first : DiscoveredPlugin} (hplugins : plugins = front ++ d :: back)
      (hfront : (front.map DiscoveredPlugin.id).Nodup) (hfirst : first ∈ front) (hid : first.id = d.id) :
    Refused plugins host (.duplicatePlugin d.id first.describe d.describe)
  | transformer {front back : List (String × Transformer)} {plugin : String} {t : Transformer} {failure : RegistryFailure}
      (hids : (plugins.map DiscoveredPlugin.id).Nodup) (hentries : contributed plugins = front ++ (plugin, t) :: back)
      (hfront : Sound front) (hfault : Fault (front.map fun entry => entry.2.registryName) plugin t failure) :
    Refused plugins host failure
  | veto {front back : List DiscoveredPlugin} {d : DiscoveredPlugin} {reason : String}
      (hids : (plugins.map DiscoveredPlugin.id).Nodup) (hsound : Sound (contributed plugins))
      (hplugins : plugins = front ++ d :: back)
      (hfront : Agree front (.new (plugins.map DiscoveredPlugin.id) host))
      (hreason : (d.plugin.objection (after front (.new (plugins.map DiscoveredPlugin.id) host))).1 = some reason) :
    Refused plugins host (.incompatibleEnvironment d.id reason)

/-- What accepted plugins bring is what they have, in their order. -/
theorem contributed_map_snd (plugins : List DiscoveredPlugin) :
    (contributed plugins).map Prod.snd = plugins.flatMap fun d => d.plugin.transformers := by
  unfold contributed
  simp [List.map_flatMap, Function.comp_def]

/-- Transformers have no fault if that can be said plugin by plugin, and of the names altogether. -/
theorem sound_contributed_iff : Sound (contributed plugins) ↔
    (∀ d ∈ plugins, ∀ t ∈ d.plugin.transformers, t.data.pluginId = d.id ∧ t.targets ≠ []) ∧
      ((plugins.flatMap fun d => d.plugin.transformers).map Transformer.registryName).Nodup := by
  have hmem {d : DiscoveredPlugin} {t : Transformer} (hd : d ∈ plugins) (ht : t ∈ d.plugin.transformers) :
      (d.id, t) ∈ contributed plugins :=
    List.mem_flatMap.mpr ⟨d, hd, List.mem_map.mpr ⟨t, ht, rfl⟩⟩
  have hnames : (contributed plugins).map (fun entry => entry.2.registryName) =
      (plugins.flatMap fun d => d.plugin.transformers).map Transformer.registryName := by
    rw [← contributed_map_snd, List.map_map]
    rfl
  rw [← hnames]
  constructor
  · intro h
    exact ⟨fun d hd t ht => ⟨h.owned _ (hmem hd ht), h.targeted _ (hmem hd ht)⟩, h.names⟩
  · rintro ⟨h, hnodup⟩
    have hentry (entry : String × Transformer) (hentry : entry ∈ contributed plugins) :
        entry.2.data.pluginId = entry.1 ∧ entry.2.targets ≠ [] := by
      obtain ⟨d, hd, hbrought⟩ := List.mem_flatMap.mp hentry
      obtain ⟨t, ht, rfl⟩ := List.mem_map.mp hbrought
      exact h d hd t ht
    exact ⟨fun entry hmem => (hentry entry hmem).1, fun entry hmem => (hentry entry hmem).2, hnodup⟩

/-- Acceptance is its three rounds, one after the other. -/
theorem accept_fst (plugins : List DiscoveredPlugin) (host : Host) :
    (accept plugins host).1 = (do
      checkIds [] plugins
      checkTransformers [] (contributed plugins)
      (askPlugins plugins (.new (plugins.map DiscoveredPlugin.id) host)).1
      return ⟨plugins, plugins.flatMap fun d => d.plugin.transformers,
        (askPlugins plugins (.new (plugins.map DiscoveredPlugin.id) host)).2⟩) := by
  unfold accept
  dsimp only
  rw [contributed_map_snd]
  rcases checkIds [] plugins with failure | ⟨⟩
  · rfl
  rcases checkTransformers [] (contributed plugins) with failure | ⟨⟩
  · rfl
  rcases askPlugins plugins (.new (plugins.map DiscoveredPlugin.id) host) with ⟨failure | ⟨⟩, e⟩
  · rfl
  · rfl

theorem accept_eq_ok_iff : (accept plugins host).1 = .ok b ↔
    ((plugins.map DiscoveredPlugin.id).Nodup ∧ Sound (contributed plugins) ∧
      Agree plugins (.new (plugins.map DiscoveredPlugin.id) host)) ∧
    b = ⟨plugins, plugins.flatMap fun d => d.plugin.transformers,
      (askPlugins plugins (.new (plugins.map DiscoveredPlugin.id) host)).2⟩ := by
  rw [accept_fst]
  constructor
  · intro h
    obtain ⟨⟨⟩, hids, h⟩ := except_bind_eq_ok.mp h
    obtain ⟨⟨⟩, htransformers, h⟩ := except_bind_eq_ok.mp h
    obtain ⟨⟨⟩, hagree, h⟩ := except_bind_eq_ok.mp h
    cases h
    exact ⟨⟨checkIds_nil_eq_ok_iff.mp hids, checkTransformers_nil_eq_ok_iff.mp htransformers,
      askPlugins_eq_ok_iff.mp hagree⟩, rfl⟩
  · rintro ⟨⟨hids, hsound, hagree⟩, rfl⟩
    rw [checkIds_nil_eq_ok_iff.mpr hids, checkTransformers_nil_eq_ok_iff.mpr hsound,
      askPlugins_eq_ok_iff.mpr hagree]
    rfl

theorem accept_eq_error_iff : (accept plugins host).1 = .error failure ↔ Refused plugins host failure := by
  rw [accept_fst]
  constructor
  · intro h
    obtain hids | ⟨⟨⟩, hids, h⟩ := except_bind_eq_error.mp h
    · obtain ⟨front, d, back, first, hplugins, hfront, hfirst, hid, rfl⟩ := checkIds_eq_error_iff.mp hids
      exact .id hplugins hfront hfirst hid
    replace hids := checkIds_nil_eq_ok_iff.mp hids
    obtain htransformers | ⟨⟨⟩, htransformers, h⟩ := except_bind_eq_error.mp h
    · obtain ⟨front, plugin, t, back, hentries, hfront, hfault⟩ := checkTransformers_eq_error_iff.mp htransformers
      exact .transformer hids hentries hfront hfault
    replace htransformers := checkTransformers_nil_eq_ok_iff.mp htransformers
    obtain hasked | ⟨⟨⟩, -, h⟩ := except_bind_eq_error.mp h
    · obtain ⟨front, d, back, reason, hplugins, hfront, hreason, rfl⟩ := askPlugins_eq_error_iff.mp hasked
      exact .veto hids htransformers hplugins hfront hreason
    · cases h
  · intro h
    cases h with
    | id hplugins hfront hfirst hid =>
      rw [checkIds_eq_error_iff.mpr ⟨_, _, _, _, hplugins, hfront, hfirst, hid, rfl⟩]
      rfl
    | transformer hids hentries hfront hfault =>
      rw [checkIds_nil_eq_ok_iff.mpr hids,
        checkTransformers_eq_error_iff.mpr ⟨_, _, _, _, hentries, hfront, hfault⟩]
      rfl
    | veto hids hsound hplugins hfront hreason =>
      rw [checkIds_nil_eq_ok_iff.mpr hids, checkTransformers_nil_eq_ok_iff.mpr hsound,
        askPlugins_eq_error_iff.mpr ⟨_, _, _, _, hplugins, hfront, hreason, rfl⟩]
      rfl

/-- **Acceptance is exact, and the first fault in the order of the rounds is the one reported.** Plugins are accepted if and
only if their ids differ, each transformer belongs to the plugin that brings it and is for some class, the names of
transformers differ, and no plugin objects, which for plugins that make up their minds without asking says that none of them
has an objection. Accepted plugins and their transformers are the given ones in the given order,
and transformers that differ in plugin or name differ in the name they go by, which for checked data says that the name
they go by tells plugin and name. Any other plugins are refused for the first fault. -/
theorem accept_exact (plugins : List DiscoveredPlugin) (host : Host) :
    ((∃ b, (accept plugins host).1 = .ok b) ↔
      (plugins.map DiscoveredPlugin.id).Nodup ∧
      (∀ d ∈ plugins, ∀ t ∈ d.plugin.transformers, t.data.pluginId = d.id ∧ t.targets ≠ []) ∧
      ((plugins.flatMap fun d => d.plugin.transformers).map Transformer.registryName).Nodup ∧
      Agree plugins (.new (plugins.map DiscoveredPlugin.id) host)) ∧
    (∀ veto : DiscoveredPlugin → Option String, (∀ d ∈ plugins, d.plugin.objection = pure (veto d)) →
      (Agree plugins (.new (plugins.map DiscoveredPlugin.id) host) ↔ ∀ d ∈ plugins, veto d = none)) ∧
    (∀ b, (accept plugins host).1 = .ok b → b.plugins = plugins ∧
      b.transformers = (plugins.flatMap fun d => d.plugin.transformers) ∧
      b.transformers.Pairwise (fun t t' => t.registryName ≠ t'.registryName) ∧
      ∀ t ∈ b.transformers, ∀ t' ∈ b.transformers, t.data.Checked →
        (t.registryName = t'.registryName ↔ (t.data.pluginId, t.data.name) = (t'.data.pluginId, t'.data.name))) ∧
    ∀ failure, (accept plugins host).1 = .error failure ↔ Refused plugins host failure := by
  refine ⟨?_, fun veto => agree_iff_of_pure, ?_, fun failure => accept_eq_error_iff⟩
  · rw [← and_assoc (a := ∀ d ∈ plugins, _), ← sound_contributed_iff]
    constructor
    · rintro ⟨b, hb⟩
      exact (accept_eq_ok_iff.mp hb).1
    · intro h
      exact ⟨_, accept_eq_ok_iff.mpr ⟨h, rfl⟩⟩
  · intro b hb
    obtain ⟨⟨-, hsound, -⟩, rfl⟩ := accept_eq_ok_iff.mp hb
    refine ⟨rfl, rfl, ?_, fun t _ t' _ ht => registryName_inj ht⟩
    exact List.pairwise_map.mp (sound_contributed_iff.mp hsound).2

/-- Two plugins of one id, the first of which brings a transformer that belongs to another plugin. -/
def crossed : List DiscoveredPlugin :=
  [bringing "alpha" [tunable "beta" "tuned"], { bringing "alpha" [] with origin := .archive ⟨"a.jar"⟩ }]

/-- Neighbours are accepted, and their transformers go by names of their own. Of the two faults of the others the shared id
is reported, since all ids are looked at before any transformer. -/
theorem accept_exact_neighbours :
    (∃ b, (accept neighbours (.static ⟨"r"⟩ [])).1 = .ok b ∧ b.plugins = neighbours ∧
      b.transformers.map Transformer.registryName = ["alpha:tuned", "beta:tuned"] ∧
      b.transformers.Pairwise fun t t' => t.registryName ≠ t'.registryName) ∧
    (tunable "alpha" "tuned").data.Checked ∧
    (accept crossed (.static ⟨"r"⟩ [])).1 =
      .error (.duplicatePlugin "alpha" "alpha (classpath )" "alpha (archive a.jar)") := by
  refine ⟨?_, rfl, ?_⟩
  · obtain ⟨haccepted, hveto, hgiven, -⟩ := accept_exact neighbours (.static ⟨"r"⟩ [])
    have howned : ∀ d ∈ neighbours, ∀ t ∈ d.plugin.transformers, t.data.pluginId = d.id ∧ t.targets ≠ [] :=
      List.forall_mem_cons.mpr ⟨List.forall_mem_singleton.mpr ⟨rfl, List.cons_ne_nil _ _⟩,
        List.forall_mem_singleton.mpr (List.forall_mem_singleton.mpr ⟨rfl, List.cons_ne_nil _ _⟩)⟩
    have hpure : ∀ d ∈ neighbours, d.plugin.objection = pure none :=
      List.forall_mem_cons.mpr ⟨rfl, List.forall_mem_singleton.mpr rfl⟩
    have hagree := (hveto (fun _ => none) hpure).mpr fun _ _ => rfl
    obtain ⟨b, hb⟩ := haccepted.mpr ⟨by decide, howned, by decide, hagree⟩
    obtain ⟨hplugins, htransformers, hnames, -⟩ := hgiven b hb
    refine ⟨b, hb, hplugins, ?_, hnames⟩
    rw [htransformers]
    rfl
  · refine ((accept_exact crossed (.static ⟨"r"⟩ [])).2.2.2 _).mpr ?_
    have hcrossed : crossed = [bringing "alpha" [tunable "beta" "tuned"]] ++
        [{ bringing "alpha" [] with origin := .archive ⟨"a.jar"⟩ }] := rfl
    exact .id hcrossed (List.nodup_singleton _) (List.mem_singleton.mpr rfl) rfl

end Blackboard

end ClassWeaver
