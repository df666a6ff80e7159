import AgentFiles.Check.Manifest
import AgentFiles.Check.Markdown
import AgentFiles.FileName
import AgentFiles.Metadata

/-!
# Checks of files

A file is checked as the kind that its name tells. A kind can also be given, and commands can be
checked in no other way.
-/

namespace AgentFiles
namespace Check

def unrecognized : String := "Not a recognized Claude Code file type"

def contentOf (limits : Limits) : Kind -> String -> Verdict
  | .memory => memory limits
  | .command => command limits
  | .agent => agent limits
  | .skill => skill limits
  | .hook => hook
  | .outputStyle => outputStyle limits
  | .settings => settings
  | .plugin => plugin
  | .marketplace => marketplace

def file (limits : Limits) (fileName content : String) : Verdict :=
  match FileName.detect fileName with
  | some kind => contentOf limits kind content
  | none => .failure unrecognized

def metadata? (limits : Limits) (fileName content : String) : Option Metadata :=
  (FileName.detect fileName).map fun kind =>
    { kind := kind
      fileName := fileName
      hasFrontmatter := (Markdown.parse content).hasHeader
      frontmatterValid := (contentOf limits kind content).isValid }

end Check
end AgentFiles
