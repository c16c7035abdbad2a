import ClassWeaver.Identity.Metadata
import ClassWeaver.Plugin.Settings
import ClassWeaver.Weaving.Prefab

/-!
# Transformers

A weaving of classes under a name, with the classes it is for and what users may tune.
-/

namespace ClassWeaver

open Identity

/-- A named weaving of the classes that it targets. -/
structure Transformer where
  data : TransformerData
  targets : List TypeDescriptor
  settings : Option Settings
  run : Weaving Unit

namespace Transformer

/-- The name among the transformers of all plugins. -/
def registryName (t : Transformer) : String :=
  t.data.registryName

/-- The transformer of a ready-made weaving; its targets are the classes that the weaving may change. -/
def ofPrefab (data : TransformerData) (prefab : Prefab) (settings : Option Settings) : Transformer :=
  ⟨data, prefab.targetClasses, settings, prefab.apply⟩

end Transformer

end ClassWeaver
