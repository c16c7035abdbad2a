import ClassWeaver.Weaving.Access
import ClassWeaver.Weaving.Patch

/-!
# Ready-made weavings

The weavings that need no code of their own. Each knows the classes that it may change, so that it is only sent
those.
-/

namespace ClassWeaver

open Identity

/-- A weaving that is described by data. -/
inductive Prefab
  | access (targets : Access)
  | patches (list : MethodPatches)

namespace Prefab

/-- The classes that the weaving may change, in the order of first mention. -/
def targetClasses : Prefab → List TypeDescriptor
  | access targets => targets.targetClasses
  | patches list => MethodPatches.targetClasses list

/-- Changes the class at hand. -/
def apply : Prefab → Weaving Unit
  | access targets => targets.apply
  | patches list => MethodPatches.apply list

end Prefab

end ClassWeaver
