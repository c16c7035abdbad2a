import ClassWeaver.CommandLine.Execution
import ClassWeaver.Main
import ClassWeaver.Proofs.ClassFile.AnnouncedSlots
import ClassWeaver.Proofs.ClassFile.RoundTrip
import ClassWeaver.Proofs.Code.DebugTables
import ClassWeaver.Proofs.Code.Relaxation
import ClassWeaver.Proofs.Engine.Marking
import ClassWeaver.Proofs.Weaving.AccessIdempotence
import ClassWeaver.Proofs.Weaving.AccessorTyping
import ClassWeaver.Proofs.ClassFile.PoolCalls
import ClassWeaver.Proofs.ClassFile.StoredPools
import ClassWeaver.Proofs.Identity.Conversions
import ClassWeaver.Proofs.Weaving.TargetClasses
import ClassWeaver.Proofs.ClassFile.CodeReplacement
import ClassWeaver.Proofs.Files.Paths
import ClassWeaver.Proofs.Files.Trees
import ClassWeaver.Proofs.Files.Changes
import ClassWeaver.Proofs.Registry.Acceptance
import ClassWeaver.Proofs.Registry.SettingsPaths
import ClassWeaver.Proofs.Json.Fields
import ClassWeaver.Proofs.Registry.Filling
import ClassWeaver.Proofs.Registry.Documents
import ClassWeaver.Proofs.Registry.Loading
import ClassWeaver.Proofs.Files.Listing
import ClassWeaver.Proofs.CommandLine.Walks
import ClassWeaver.Proofs.CommandLine.ClassPaths
import ClassWeaver.Proofs.CommandLine.Copying
import ClassWeaver.Proofs.Bytes.Truncation
import ClassWeaver.Proofs.ClassFile.Truncation
import ClassWeaver.Proofs.Code.Rounds
import ClassWeaver.Proofs.Code.Closedness
import ClassWeaver.Proofs.Code.Exactness
import ClassWeaver.Proofs.ClassFile.AnnotationPayloads
import ClassWeaver.Proofs.Identity.Runs
import ClassWeaver.Proofs.Identity.Entries
import ClassWeaver.Proofs.Registry.Verdicts
import ClassWeaver.Proofs.Engine.Dumps
import ClassWeaver.Proofs.Json.Tokens
import ClassWeaver.Proofs.Json.RoundTrip
import ClassWeaver.Proofs.Registry.Preservation
import ClassWeaver.Proofs.Plugin.Properties
import ClassWeaver.Proofs.Plugin.Archives
import ClassWeaver.Proofs.Json.Records
import ClassWeaver.Proofs.Plugin.Attribution
import ClassWeaver.Proofs.Identity.Metadata
import ClassWeaver.Proofs.Weaving.Patches
import ClassWeaver.Proofs.Text.Lines
import ClassWeaver.Proofs.Plugin.Manifests
import ClassWeaver.Proofs.Plugin.Findings
