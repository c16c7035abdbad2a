import ClassWeaver.Plugin.LaunchPlugin
import ClassWeaver.Registry.Failure

/-!
# The blackboard

Plugins that may run together. Ids and names have to be distinct, every transformer has to belong to the plugin
that brings it and to be for some class, and no plugin may object to the environment. All ids are checked before
any transformer, and all transformers before any plugin is asked.

## Contents

* `checkIds`, `checkTransformers`, `askPlugins` — the three rounds.
* `Blackboard`, `accept`, `plugin?` — accepted plugins.
-/

namespace ClassWeaver

namespace Blackboard

/-- Refuses the first plugin whose id occurred before; `seen` are the plugins in front. -/
def checkIds (seen : List DiscoveredPlugin) : List DiscoveredPlugin → Except RegistryFailure Unit
  | [] => .ok ()
  | d :: rest =>
    match seen.find? fun e => e.id == d.id with
    | some e => .error (.duplicatePlugin d.id e.describe d.describe)
    | none => checkIds (seen ++ [d]) rest

/-- The transformers of plugins, each with the id of the plugin that brings it. -/
def contributed (plugins : List DiscoveredPlugin) : List (String × Transformer) :=
  plugins.flatMap fun d => d.plugin.transformers.map fun t => (d.id, t)

/-- Refuses the first transformer that belongs to another plugin, is for no class, or whose name occurred
before; `seen` are the names in front. -/
def checkTransformers (seen : List String) : List (String × Transformer) → Except RegistryFailure Unit
  | [] => .ok ()
  | (plugin, t) :: rest =>
    if t.data.pluginId ≠ plugin then .error (.foreignTransformer t.registryName plugin)
    else if t.targets.isEmpty then .error (.noTargets t.registryName)
    else if seen.contains t.registryName then .error (.duplicateTransformer t.registryName)
    else checkTransformers (seen ++ [t.registryName]) rest

/-- Asks the plugins one after the other, up to the first objection. -/
def askPlugins : List DiscoveredPlugin → Environment → Except RegistryFailure Unit × Environment
  | [], e => (.ok (), e)
  | d :: rest, e =>
    match d.plugin.objection e with
    | (some reason, e) => (.error (.incompatibleEnvironment d.id reason), e)
    | (none, e) => askPlugins rest e

end Blackboard

/-- Accepted plugins and their transformers, both in the order of discovery. -/
structure Blackboard where
  plugins : List DiscoveredPlugin
  transformers : List Transformer
  environment : Environment

namespace Blackboard

/-- Accepts plugins together; the environment shows what the host was asked, also if they are refused. -/
def accept (plugins : List DiscoveredPlugin) (host : Host) : Except RegistryFailure Blackboard × Environment :=
  let environment := Environment.new (plugins.map DiscoveredPlugin.id) host
  match checkIds [] plugins with
  | .error failure => (.error failure, environment)
  | .ok () =>
    match checkTransformers [] (contributed plugins) with
    | .error failure => (.error failure, environment)
    | .ok () =>
      match askPlugins plugins environment with
      | (.error failure, environment) => (.error failure, environment)
      | (.ok (), environment) =>
        (.ok ⟨plugins, (contributed plugins).map Prod.snd, environment⟩, environment)

/-- The plugin of an id. -/
def plugin? (b : Blackboard) (id : String) : Option DiscoveredPlugin :=
  b.plugins.find? fun d => d.id == id

end Blackboard

end ClassWeaver
