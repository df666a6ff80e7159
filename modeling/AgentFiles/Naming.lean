import AgentFiles.Text.Commas
import AgentFiles.Text.Digits
import AgentFiles.Yaml.Fault

/-!
# Names and models in headers

A name is made of lower-case letters, digits and hyphens, and the name of an agent may have
underscores as well. A model is one of three aliases or an alias with a date. Where a header holds
something else than a text, its plain text is looked at.
-/

namespace AgentFiles

inductive Naming where
  | underscores
  | hyphensOnly
deriving DecidableEq, Repr

namespace Naming

def allows (naming : Naming) (c : Char) : Bool :=
  ('a' ≤ c && c ≤ 'z') || ('0' ≤ c && c ≤ '9') || c == '-' ||
    (naming == .underscores && c == '_')

def admits (naming : Naming) (name : List Char) : Bool :=
  !name.isEmpty && name.all naming.allows

end Naming

namespace Model

def aliases : List String :=
  ["opus", "sonnet", "haiku"]

/-- Whether a text is an alias between `claude-` and a date of eight digits. -/
def isDated (model : List Char) : Bool :=
  aliases.any fun name =>
    let stem := ("claude-" ++ name ++ "-").toList
    let date := model.drop stem.length
    stem.isPrefixOf model && date.length == 8 && date.all Text.isDigit

def isKnown (model : String) : Bool :=
  aliases.contains model || isDated model.toList

end Model

namespace Yaml
namespace Value

mutual

/-- The plain text of a value. Items of a sequence are separated by commas, and null among them is
empty; a mapping does not show its entries. -/
def plainText : Value -> List Char
  | .null => "null".toList
  | .bool true => "true".toList
  | .bool false => "false".toList
  | .number n => (numberText n).toList
  | .string s => s.toList
  | .sequence items => Text.joinCommas (itemTexts items)
  | .mapping _ => "[object Object]".toList
  | .tagged _ value => value.plainText

def itemTexts : List Value -> List (List Char)
  | [] => []
  | .null :: rest => [] :: itemTexts rest
  | value :: rest => value.plainText :: itemTexts rest

end

end Value
end Yaml
end AgentFiles
