import ClassWeaver.Files.Tree
import ClassWeaver.Plugin.Settings

/-!
# Failures of the registry

Why plugins were not accepted together, and why their configuration could not be loaded.
-/

namespace ClassWeaver

/-- What is wrong with a document of the configuration. -/
inductive DocumentFault
  | notJson
  | notAnObject
  | switchNotBoolean (name : String)
  | mismatch (cause : Json.Mismatch)
  | settings (cause : SettingsFailure)
  deriving DecidableEq, Repr

/-- The text shown for a fault. -/
def DocumentFault.message : DocumentFault → String
  | notJson => "not a JSON document"
  | notAnObject => "expected a JSON object"
  | switchNotBoolean name => s!"'{name}.enabled' must be a boolean"
  | mismatch cause => cause.message
  | settings cause => cause.message

/-- Why plugins were not accepted or their configuration was not loaded. -/
inductive RegistryFailure
  | duplicatePlugin (id existing new : String)
  | duplicateTransformer (name : String)
  | noTargets (transformer : String)
  | foreignTransformer (transformer plugin : String)
  | incompatibleEnvironment (plugin reason : String)
  | document (path : Path) (fault : DocumentFault)
  | inaccessible (path : Path) (fault : FileFault)
  deriving DecidableEq, Repr

namespace RegistryFailure

/-- The text shown for a failure. -/
def message : RegistryFailure → String
  | duplicatePlugin id existing new => s!"Duplicate plugin id '{id}': {existing} and {new}"
  | duplicateTransformer name => s!"Duplicate transformer '{name}'"
  | noTargets transformer => s!"Transformer '{transformer}' declares no target classes"
  | foreignTransformer transformer plugin =>
    s!"Transformer '{transformer}' is registered by plugin '{plugin}' but belongs to another plugin"
  | incompatibleEnvironment plugin reason => s!"Plugin '{plugin}' rejected the environment: {reason}"
  | document path fault => s!"Invalid configuration document {path.text}: {fault.message}"
  | inaccessible path fault => s!"Failed to access {path.text}: {fault.message}"

/-- The diagnostic code of a failure. -/
def code : RegistryFailure → String
  | duplicatePlugin _ _ _ => "graft::registry::duplicate_plugin"
  | duplicateTransformer _ => "graft::registry::duplicate_transformer"
  | noTargets _ => "graft::registry::no_targets"
  | foreignTransformer _ _ => "graft::registry::foreign_transformer"
  | incompatibleEnvironment _ _ => "graft::registry::incompatible_environment"
  | document _ _ => "graft::registry::config"
  | inaccessible _ _ => "graft::registry::io"

/-- Advice on a failure, if there is any. -/
def help? : RegistryFailure → Option String
  | duplicatePlugin _ _ _ => some "remove one of the two plugins from the installation"
  | _ => none

end RegistryFailure

end ClassWeaver
