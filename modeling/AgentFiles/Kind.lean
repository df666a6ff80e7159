/-!
# Kinds of agent files

There are nine kinds. Each has a tag, by which files name it, and a label for filters. Three kinds
hold JSON, the others hold Markdown.
-/

namespace AgentFiles

inductive Kind where
  | memory
  | command
  | agent
  | skill
  | hook
  | outputStyle
  | settings
  | plugin
  | marketplace
deriving DecidableEq, Repr

namespace Kind

/-- Every kind once, in sidebar order. -/
def all : List Kind :=
  [memory, command, agent, skill, hook, outputStyle, settings, plugin, marketplace]

def tag : Kind -> String
  | memory => "claude-md"
  | command => "claude-command"
  | agent => "claude-agent"
  | skill => "claude-skill"
  | hook => "claude-hook"
  | outputStyle => "claude-output-style"
  | settings => "claude-settings"
  | plugin => "claude-plugin"
  | marketplace => "claude-marketplace"

def label : Kind -> String
  | memory => "CLAUDE.md"
  | command => "Commands"
  | agent => "Agents"
  | skill => "Skills"
  | hook => "Hooks"
  | outputStyle => "Output Styles"
  | settings => "Settings"
  | plugin => "Plugins"
  | marketplace => "Marketplaces"

def holdsJson : Kind -> Bool
  | settings => true
  | plugin => true
  | marketplace => true
  | _ => false

def extension (kind : Kind) : String :=
  if kind.holdsJson then ".json" else ".md"

def rank : Kind -> Nat
  | memory => 0
  | command => 1
  | agent => 2
  | skill => 3
  | hook => 4
  | outputStyle => 5
  | settings => 6
  | plugin => 7
  | marketplace => 8

def ofTag? (tag : String) : Option Kind :=
  all.find? fun kind => kind.tag == tag

def sort (kinds : List Kind) : List Kind :=
  kinds.mergeSort fun a b => a.rank ≤ b.rank

theorem ofTag?_tag (kind : Kind) : ofTag? kind.tag = some kind := by
  cases kind <;> decide

theorem tag_injective {a b : Kind} (h : a.tag = b.tag) : a = b := by
  have ha := ofTag?_tag a
  rw [h, ofTag?_tag b] at ha
  exact (Option.some.inj ha).symm

theorem tag_of_ofTag? {tag : String} {kind : Kind} (h : ofTag? tag = some kind) :
    kind.tag = tag := by
  simpa using List.find?_some h

end Kind
end AgentFiles
