import AgentFiles.Schema.Kind

/-!
# Summary of a file
-/

namespace AgentFiles

open Json

structure Metadata where
  kind : Kind := .memory
  fileName : String := ""
  hasFrontmatter : Bool := false
  /-- Whether the file as a whole is valid, not only its header. -/
  frontmatterValid : Bool := false
deriving DecidableEq, Repr

namespace Metadata

def record : Record Metadata where
  name := "ClaudeCodeFileMetadata"
  fields := [
    .mandatory "fileType" Kind.codec (·.kind) (fun v m => { m with kind := v }),
    .mandatory "fileName" .text (·.fileName) (fun v m => { m with fileName := v }),
    .mandatory "hasFrontmatter" .flag (·.hasFrontmatter)
      (fun v m => { m with hasFrontmatter := v }),
    .mandatory "frontmatterValid" .flag (·.frontmatterValid)
      (fun v m => { m with frontmatterValid := v })]
  blank := {}

def codec : Codec Metadata :=
  record.codec

end Metadata
end AgentFiles
