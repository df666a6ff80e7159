import AgentFiles.Yaml.Token

/-!
# Tags

A local tag begins with an exclamation mark and names a variant of its value. Four tags of the core
schema say how a scalar is to be read. All other tags mean nothing here, except that a scalar under
one of them is a text.
-/

namespace AgentFiles
namespace Yaml

inductive Tag where
  /-- A local tag, without the mark in front of its name. -/
  | named (name : String)
  | bool
  | int
  | float
  | null
  /-- A local tag whose octets are no text. -/
  | undecodable
  | other
deriving DecidableEq, Repr

namespace Tag

/-- A name without a mark in front of it. A mark with nothing after it is a name. -/
def dropMark (name : List Char) : List Char :=
  match name with
  | '!' :: c :: rest => c :: rest
  | _ => name

def core (name : String) : Octets :=
  octets ("tag:yaml.org,2002:" ++ name).toList

def ofOctets (s : Octets) : Tag :=
  if s.head? == some 0x21 then
    match String.fromUTF8? ⟨s.toArray⟩ with
    | some name => .named (String.ofList (dropMark (dropMark name.toList)))
    | none => .undecodable
  else if s == core "bool" then .bool
  else if s == core "int" then .int
  else if s == core "float" then .float
  else if s == core "null" then .null
  else .other

def text (name : String) : String :=
  "!" ++ name

/-- Whether the tag is local, so that a plain scalar under it is read like one without a tag. -/
def isLocal : Tag -> Bool
  | .named _ => true
  | .undecodable => true
  | _ => false

end Tag
end Yaml
end AgentFiles
