import AgentFiles.Keyed
import AgentFiles.ToolList
import AgentFiles.Yaml.Reading

/-!
# Typed headers

The header of a Markdown file holds declared entries, which are texts or lists of tools, and any
others. A schema lists the declared entries in order. Those that are present come first when a
header is shown again, and the others follow in the order of their keys.
-/

namespace AgentFiles
namespace Header

/-- A declared entry. One that is not required may be missing or null, which is the same. -/
structure Entry where
  key : String
  required : Bool
  listsTools : Bool
deriving DecidableEq, Repr

namespace Entry

def needed (key : String) : Entry :=
  ⟨key, true, false⟩

def text (key : String) : Entry :=
  ⟨key, false, false⟩

def tools (key : String) : Entry :=
  ⟨key, false, true⟩

end Entry

structure Schema where
  /-- The name of the schema in messages. -/
  name : String
  entries : List Entry
deriving DecidableEq, Repr

namespace Schema

def find? (schema : Schema) (key : String) : Option Entry :=
  schema.entries.find? fun entry => entry.key == key

def memory : Schema :=
  ⟨"ClaudeMdFrontmatter", [.text "name", .text "description", .text "version"]⟩

def command : Schema :=
  ⟨"CommandFrontmatter", [.tools "allowed-tools", .text "description", .text "argument-hint"]⟩

def agent : Schema :=
  ⟨"AgentFrontmatter",
    [.needed "name", .needed "description", .text "model", .text "color", .tools "tools"]⟩

def skill : Schema :=
  ⟨"SkillFrontmatter", [.needed "name", .needed "description", .tools "tools"]⟩

def hook : Schema :=
  ⟨"HookFrontmatter", [.text "name", .text "description", .text "event", .text "matcher"]⟩

def outputStyle : Schema :=
  ⟨"OutputStyleFrontmatter", [.needed "name", .needed "description"]⟩

def all : List (String × Schema) :=
  [("claude-md", memory), ("command", command), ("agent", agent), ("skill", skill),
    ("hook", hook), ("output-style", outputStyle)]

def ofName? (name : String) : Option Schema :=
  (all.find? fun entry => entry.1 == name).map (·.2)

def expected (schema : Schema) : String :=
  s!"struct {schema.name}"

end Schema

inductive Part where
  | text (s : String)
  | tools (list : ToolList)
deriving DecidableEq, Repr

def Part.toYaml : Part -> Yaml.Value
  | text s => .string s
  | tools (.list items) => .sequence (items.map .string)
  | tools (.inline line) => .string line

end Header

structure Header where
  /-- The declared entries that are present, in the order of the schema. -/
  declared : List (String × Header.Part)
  /-- All other entries, in the order of their keys. -/
  extra : List (String × Yaml.Value)
deriving Repr

namespace Header

def tools? (header : Header) : Option ToolList :=
  header.declared.findSome? fun entry =>
    match entry.2 with
    | .tools list => some list
    | .text _ => none

def toYaml (header : Header) : List (Yaml.Value × Yaml.Value) :=
  header.declared.map (fun entry => (.string entry.1, entry.2.toYaml)) ++
    header.extra.map fun entry => (.string entry.1, entry.2)

/-!
## Collecting entries
-/

/-- The entries that were read so far, in order; a declared one that is null holds nothing. -/
structure Draft where
  declared : List (String × Option Part) := []
  extra : List (String × Yaml.Value) := []

namespace Draft

def part? (draft : Draft) (key : String) : Option (Option Part) :=
  Keyed.find? key draft.declared

def isGiven (draft : Draft) (key : String) : Bool :=
  (draft.part? key).isSome

def declare (draft : Draft) (key : String) (part : Option Part) : Draft :=
  { draft with declared := draft.declared ++ [(key, part)] }

def keep (draft : Draft) (key : String) (value : Yaml.Value) : Draft :=
  { draft with extra := draft.extra ++ [(key, value)] }

def repeatedKey? (draft : Draft) : Option Yaml.Value :=
  draft.extra.findSome? fun entry => entry.2.repeatedKey?

/-- The header, once all entries are read. Of two extra entries with one key the last one counts. -/
def complete (draft : Draft) (schema : Schema) : Except Yaml.Cause Header :=
  match schema.entries.find? fun entry => entry.required && !draft.isGiven entry.key with
  | some entry => .error (.missingField entry.key)
  | none =>
    match draft.repeatedKey? with
    | some key => .error (.duplicateKey key)
    | none =>
      let present (entry : Entry) : Option (String × Part) :=
        (draft.part? entry.key).join.map fun part => (entry.key, part)
      .ok ⟨schema.entries.filterMap present, Keyed.ofList draft.extra⟩

end Draft

end Header

/-!
## Tools
-/

namespace ToolList

def yamlTexts? : List Yaml.Value -> Option (List String)
  | [] => some []
  | .string s :: rest => (yamlTexts? rest).map (s :: ·)
  | _ :: _ => none

def ofYaml? : Yaml.Value -> Option ToolList
  | .sequence items => (yamlTexts? items).map list
  | .string line => some (inline line)
  | _ => none

end ToolList
end AgentFiles
