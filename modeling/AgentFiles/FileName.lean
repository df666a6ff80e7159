import AgentFiles.Kind
import AgentFiles.Text.Lowercase
import AgentFiles.Text.Search

/-!
# Names of agent files

The name of a file tells its kind, in whatever case it is written. Some names are known as a whole;
another Markdown file is known by a word in its name, and of several words the first one in the list
counts. Commands have no name of their own.

A name without an extension is completed with the extension of its kind.
-/

namespace AgentFiles
namespace FileName

def wholeNames : List (String × Kind) :=
  [("claude.md", .memory), ("settings.json", .settings), ("settings.local.json", .settings),
    ("plugin.json", .plugin), ("marketplace.json", .marketplace)]

def words : List (String × Kind) :=
  [("agent", .agent), ("skill", .skill), ("hook", .hook), ("style", .outputStyle),
    ("output", .outputStyle)]

def kindOf? (name : List Char) : Option Kind :=
  match wholeNames.find? fun entry => entry.1.toList == name with
  | some entry => some entry.2
  | none =>
    if ".md".toList.isSuffixOf name then
      (words.find? fun entry => Text.holds entry.1.toList name).map (·.2)
    else none

def detect (name : String) : Option Kind :=
  kindOf? (Text.lowercase name.toList)

def isRecognized (name : String) : Bool :=
  (detect name).isSome

def isSeparator (c : Char) : Bool :=
  c == '/' || c == '\\'

/-- Whether a name ends with a point and a text that holds neither a point nor a separator. -/
def hasExtension (name : List Char) : Bool :=
  let last := name.reverse.takeWhile (· != '.')
  last.length < name.length && !last.isEmpty && !last.any isSeparator

/-- The extension of a declared kind; that of Markdown for any other text. -/
def extensionFor (language : String) : String :=
  match Kind.ofTag? language with
  | some kind => kind.extension
  | none => ".md"

def complete (name language : String) : String :=
  if hasExtension name.toList then name else name ++ extensionFor language

/-- The category of a file: the kind of its completed name, or else the declared one. -/
def category (name language : String) : String :=
  match detect (complete name language) with
  | some kind => kind.tag
  | none => if language = "" then "other" else language

end FileName
end AgentFiles
