import ClassWeaver.Plugin.Environment
import ClassWeaver.Plugin.Transformer
import Std.Data.TreeMap.Basic

/-!
# Launch plugins

What a plugin contributes, where plugins come from, and the catalog of the types of plugins that can be made.

## Contents

* `LaunchPlugin` — metadata, transformers, packages and a say about the environment.
* `PluginOrigin`, `DiscoveredPlugin` — a plugin with the place where it was found.
* `PluginCatalog` — plugins by the names of their types.
-/

namespace ClassWeaver

open Identity

/-- What a plugin contributes. -/
structure LaunchPlugin where
  metadata : PluginMetadata
  transformers : List Transformer
  /-- The packages whose files in archives belong to the plugin. -/
  rootPackages : List String
  /-- The reason to refuse an environment, if there is one. -/
  objection : StateM Environment (Option String)

namespace LaunchPlugin

/-- The id in the metadata. -/
def id (p : LaunchPlugin) : String :=
  p.metadata.id

/-- The fronts of the names of files that belong to the plugin: its packages, whose dots at the end do not count,
and its directories of resources. -/
def ownedFronts (p : LaunchPlugin) : List String :=
  let directory (package : String) : String :=
    let named := (package.toList.reverse.dropWhile (· == '.')).reverse
    String.ofList (named.map fun c => if c == '.' then '/' else c) ++ "/"
  p.rootPackages.map directory ++ [s!"assets/{p.id}/", s!"data/{p.id}/", s!"META-INF/graft/{p.id}/"]

/-- Whether a file in an archive belongs to the plugin. -/
def owns (p : LaunchPlugin) (name : String) : Bool :=
  p.ownedFronts.any fun front => front.toList.isPrefixOf name.toList

end LaunchPlugin

/-! ## Plugins that were found -/

/-- Where the name of a plugin's type was found. -/
inductive PluginOrigin
  | classpath (directory : Path)
  | archive (file : Path)
  deriving DecidableEq, Repr

namespace PluginOrigin

/-- The directory or the archive. -/
def path : PluginOrigin → Path
  | classpath p => p
  | archive p => p

/-- The origin as shown to a reader. -/
def display : PluginOrigin → String
  | classpath p => s!"classpath {p.text}"
  | archive p => s!"archive {p.text}"

end PluginOrigin

/-- A plugin, the name of its type and the place where the name was found. -/
structure DiscoveredPlugin where
  plugin : LaunchPlugin
  typeName : String
  origin : PluginOrigin

namespace DiscoveredPlugin

/-- The id in the metadata. -/
def id (d : DiscoveredPlugin) : String :=
  d.plugin.id

/-- The plugin and its origin as shown to a reader. -/
def describe (d : DiscoveredPlugin) : String :=
  s!"{d.plugin.metadata.name} ({d.origin.display})"

end DiscoveredPlugin

/-! ## The catalog -/

/-- The plugins that can be made, by the names of their types. -/
structure PluginCatalog where
  plugins : Std.TreeMap String LaunchPlugin

namespace PluginCatalog

/-- The catalog without plugins. -/
def empty : PluginCatalog :=
  ⟨∅⟩

/-- Adds a plugin, in place of an earlier one of the same type name. -/
def register (c : PluginCatalog) (typeName : String) (plugin : LaunchPlugin) : PluginCatalog :=
  ⟨c.plugins.insert typeName plugin⟩

/-- Whether a plugin of the type can be made. -/
def contains (c : PluginCatalog) (typeName : String) : Bool :=
  c.plugins.contains typeName

/-- The plugin of a type. -/
def instantiate? (c : PluginCatalog) (typeName : String) : Option LaunchPlugin :=
  c.plugins.get? typeName

/-- The names of types, in order. -/
def typeNames (c : PluginCatalog) : List String :=
  c.plugins.keys

/-- The number of types. -/
def size (c : PluginCatalog) : Nat :=
  c.plugins.size

end PluginCatalog

end ClassWeaver
