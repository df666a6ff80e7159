import AgentFiles.Limits
import AgentFiles.Markdown.Document
import AgentFiles.Naming
import AgentFiles.Text.Units
import AgentFiles.Verdict

/-!
# Checks of Markdown files

Every check says what it found, and a verdict lists the findings in the order of the checks. Agents,
skills and output styles need a header with a name and a description; the other kinds may do without
one. All of them need a body.
-/

namespace AgentFiles
namespace Check

open Yaml (Value)

abbrev Entries := List (Value × Value)

def isSet (value? : Option Value) : Bool :=
  (value?.map Value.isSet).getD false

/-- Whether a text is longer than a limit, in the units of an editor. Other values have no length.
-/
def exceeds (value? : Option Value) (limit : Nat) : Bool :=
  match value?.bind Value.text? with
  | some s => limit < Text.units16 s
  | none => false

def nameLength (limits : Limits) (entries : Entries) : Verdict :=
  .warningIf (exceeds (Value.lookup "name" entries) limits.name)
    s!"Name should be less than {limits.name} characters"

def descriptionLength (limits : Limits) (entries : Entries) : Verdict :=
  .warningIf (exceeds (Value.lookup "description" entries) limits.description)
    s!"Description should be less than {limits.description} characters"

def body (document : Markdown.Document) (message : String) : Verdict :=
  .errorIf (!document.hasBody) message

/-!
## Kinds that may do without a header
-/

def memory (limits : Limits) (content : String) : Verdict :=
  let document := Markdown.parse content
  let header :=
    match document.entries? with
    | none => .warningIf true "No YAML frontmatter found (optional for CLAUDE.md)"
    | some entries => nameLength limits entries ++ descriptionLength limits entries
  header ++ body document "Content body is required"

def command (limits : Limits) (content : String) : Verdict :=
  let document := Markdown.parse content
  let header :=
    match document.entries? with
    | none => Verdict.empty
    | some entries => descriptionLength limits entries
  header ++ body document "Command content is required"

def hook (content : String) : Verdict :=
  body (Markdown.parse content) "Hook content is required"

/-!
## Kinds with an identity
-/

structure Identity where
  naming : Naming
  missingHeader : String
  missingName : String
  invalidName : String
  missingDescription : String
  missingBody : String

namespace Identity

def agent : Identity where
  naming := .underscores
  missingHeader := "YAML frontmatter is required for agents"
  missingName := "Agent name is required in frontmatter"
  invalidName :=
    "Agent name must be lowercase, and may include hyphens or underscores (no spaces)"
  missingDescription := "Agent description is required in frontmatter"
  missingBody := "Agent instructions are required"

def skill : Identity where
  naming := .hyphensOnly
  missingHeader := "YAML frontmatter is required for skills"
  missingName := "Skill name is required in frontmatter"
  invalidName := "Skill name must be lowercase with hyphens only (no spaces)"
  missingDescription := "Skill description is required in frontmatter"
  missingBody := "Skill instructions are required"

def outputStyle : Identity where
  naming := .hyphensOnly
  missingHeader := "YAML frontmatter is required for output styles"
  missingName := "Output style name is required in frontmatter"
  invalidName := "Output style name must be lowercase with hyphens only"
  missingDescription := "Output style description is required in frontmatter"
  missingBody := "Output style instructions are required"

end Identity

def name (identity : Identity) (entries : Entries) : Verdict :=
  match Value.lookup "name" entries with
  | some value =>
    if value.isSet then
      .errorIf (!identity.naming.admits value.plainText) identity.invalidName
    else .failure identity.missingName
  | none => .failure identity.missingName

def description (identity : Identity) (limits : Limits) (entries : Entries) : Verdict :=
  if isSet (Value.lookup "description" entries) then descriptionLength limits entries
  else .failure identity.missingDescription

/-- The verdict of a kind with an identity; `more` checks what is special to it. -/
def identified (identity : Identity) (more : Entries -> Verdict) (limits : Limits)
    (content : String) : Verdict :=
  let document := Markdown.parse content
  let header :=
    match document.entries? with
    | none => .failure identity.missingHeader
    | some entries =>
      name identity entries ++ description identity limits entries ++ more entries
  header ++ body document identity.missingBody

def modelAdvice : String :=
  "Model should be one of: opus, sonnet, haiku, or a valid Claude model identifier" ++
    " (e.g., claude-sonnet-4-20250514)"

/-- Whether a value names a model. An alias has to be a text. -/
def namesModel (value : Value) : Bool :=
  (value.text?.map Model.isKnown).getD false || Model.isDated value.plainText

def model (entries : Entries) : Verdict :=
  match Value.lookup "model" entries with
  | some value => .warningIf (value.isSet && !namesModel value) modelAdvice
  | none => .empty

def agent : Limits -> String -> Verdict :=
  identified .agent model

def skill : Limits -> String -> Verdict :=
  identified .skill fun _ => .empty

def outputStyle : Limits -> String -> Verdict :=
  identified .outputStyle fun _ => .empty

end Check
end AgentFiles
