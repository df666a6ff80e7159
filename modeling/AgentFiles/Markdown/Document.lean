import AgentFiles.Markdown.Fence
import AgentFiles.Yaml.Reading

/-!
# Markdown files

A Markdown file is a header and a body. A text between fences that is no mapping is no header, and
then the file is all body.
-/

namespace AgentFiles
namespace Markdown

open Yaml (Value)

inductive Block where
  | absent
  | header (entries : List (Value × Value))
  /-- A value that is no mapping. -/
  | stray (value : Value)
  | unreadable (fault : Yaml.Fault)

structure Document where
  block : Block
  /-- The text after the header without blanks at its ends, or else the whole text. -/
  body : String

def blockOf (text : String) : Block :=
  match Value.ofText text with
  | .ok (.mapping entries) => .header entries
  | .ok value => .stray value
  | .error fault => .unreadable fault

def parse (content : String) : Document :=
  match split content.toList with
  | none => ⟨.absent, content⟩
  | some (block, rest) =>
    match blockOf (String.ofList block) with
    | .header entries => ⟨.header entries, String.ofList (Text.trim rest)⟩
    | block => ⟨block, content⟩

namespace Document

def entries? (document : Document) : Option (List (Value × Value)) :=
  match document.block with
  | .header entries => some entries
  | _ => none

def hasHeader (document : Document) : Bool :=
  document.entries?.isSome

def hasBody (document : Document) : Bool :=
  !Text.allBlank document.body.toList

end Document

/-!
## Notices
-/

/-- What is logged about a block that is not used. -/
structure Notice where
  level : String
  message : String
  kind : Option String := none
deriving DecidableEq, Repr

def kindName : Value -> String
  | .null => "null"
  | .bool _ => "bool"
  | .number _ => "number"
  | .string _ => "string"
  | .sequence _ => "sequence"
  | .mapping _ => "mapping"
  | .tagged _ _ => "tagged"

def Block.notices : Block -> List Notice
  | .absent => []
  | .header _ => []
  | .stray value => [⟨"DEBUG", "Frontmatter block is not a mapping", some (kindName value)⟩]
  | .unreadable _ => [⟨"WARN", "Failed to parse YAML frontmatter", none⟩]

/-!
## Looking up entries
-/

def textKeys (entries : List (Value × Value)) : List String :=
  entries.filterMap fun entry => entry.1.text?

def containsKey (key : String) (entries : List (Value × Value)) : Bool :=
  entries.any fun entry => entry.1.same (.string key)

def lookupText (key : String) (entries : List (Value × Value)) : Option String :=
  (Value.lookup key entries).bind Value.text?

end Markdown
end AgentFiles
