import AgentFiles.Failure
import AgentFiles.Header.Text
import AgentFiles.Header.Values
import AgentFiles.Json.Codec
import AgentFiles.Markdown.Document

/-!
# Loading typed values

Loading stops at the first fault, other than validation, which collects what it finds.
-/

namespace AgentFiles

structure Loaded where
  header : Header
  body : String

def loadMarkdown (schema : Header.Schema) (content : String) : Except Failure Loaded :=
  match Markdown.split content.toList with
  | none => .error .missingHeader
  | some (block, rest) =>
    match Header.ofText schema (String.ofList block) with
    | .ok header => .ok ⟨header, String.ofList (Text.trim rest)⟩
    | .error fault => .error (.yaml fault)

def loadEntries (schema : Header.Schema) (entries : List (Yaml.Value × Yaml.Value)) :
    Except Failure Header :=
  (Header.ofEntries schema entries).mapError fun cause => .yaml (.nowhere cause)

/-- The typed header of a Markdown file that is read as an untyped one first, if it has any. -/
def loadParsed (schema : Header.Schema) (content : String) : Except Failure (Option Header) :=
  match (Markdown.parse content).entries? with
  | none => .ok none
  | some entries => (loadEntries schema entries).map some

def loadJson {α : Type} (codec : Json.Codec α) (content : String) : Except Failure α :=
  (codec.load content).mapError fun fault => .json fault content

end AgentFiles
