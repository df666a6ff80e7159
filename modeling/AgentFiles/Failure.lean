import AgentFiles.Json.Fault
import AgentFiles.Kind
import AgentFiles.Yaml.Fault

/-!
# Failures

What can go wrong when something is asked for by name or loaded as a typed value, and when the store
of the tips is used.
-/

namespace AgentFiles

inductive Failure where
  | unknownKind (tag : String)
  | missingHeader
  | yaml (fault : Yaml.Fault)
  | json (fault : Json.Fault) (text : String)
  | unreadableStore
  | readOnlyStore

namespace Failure

def message : Failure -> String
  | unknownKind tag => s!"Unknown Claude Code file type: '{tag}'"
  | missingHeader => "Missing frontmatter delimiters (---) at the start of the document"
  | yaml fault => s!"YAML parse error: {fault.message}"
  | json fault text => s!"JSON parse error: {fault.message text}"
  | unreadableStore => "storage unavailable"
  | readOnlyStore => "storage is read-only"

end Failure

def Kind.ofTag (tag : String) : Except Failure Kind :=
  match Kind.ofTag? tag with
  | some kind => .ok kind
  | none => .error (.unknownKind tag)

end AgentFiles
