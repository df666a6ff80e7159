import AgentFiles.Json.Codec
import AgentFiles.Text.Blank
import AgentFiles.Text.Commas

/-!
# Lists of tools

Tools are written as a list or as one text with commas. The names are the items without the blanks
around them; an item with nothing else in it names no tool.
-/

namespace AgentFiles

inductive ToolList where
  | list (items : List String)
  | inline (line : String)
deriving DecidableEq, Repr

namespace ToolList

def pieces : ToolList -> List (List Char)
  | list items => items.map String.toList
  | inline line => Text.splitCommas line.toList

def names (tools : ToolList) : List String :=
  ((tools.pieces.map Text.trim).filter fun name => !name.isEmpty).map String.ofList

def typeName : String := "ToolList"

def texts? : List Json.Value -> Option (List String)
  | [] => some []
  | .string s :: rest => (texts? rest).map (s :: ·)
  | _ :: _ => none

def ofJson? : Json.Value -> Option ToolList
  | .array items => (texts? items).map list
  | .string line => some (inline line)
  | _ => none

def toJson : ToolList -> Json.Value
  | list items => .array (items.map .string)
  | inline line => .string line

/-- Both spellings are read as they are; the fault of any other value has no place. -/
def codec : Json.Codec ToolList where
  read depth node := do
    let value <- node.read depth
    match ofJson? value with
    | some tools => return tools
    | none => throw ⟨.noVariant typeName, none⟩
  write := toJson

end ToolList
end AgentFiles
