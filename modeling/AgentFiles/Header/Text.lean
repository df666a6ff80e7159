import AgentFiles.Header.Schema

/-!
# Headers from texts

A header is also read straight from a text. A text entry then takes the text of any scalar, whatever
value it might stand for, and a key may be any scalar. An empty text is a header without entries.
-/

namespace AgentFiles
namespace Header

open Yaml (Document Node Reading Path Mark Fault Cause)

/-- Gives faults without a place the place of what is being read. -/
def placing {α : Type} (mark : Mark) (path : Path) (read : Reading α) : Reading α :=
  fun jumps => (read jumps).mapError (Fault.placedAt mark path)

def failing {α : Type} (result : Except Cause α) : Reading α :=
  match result with
  | .ok a => return a
  | .error cause => throw (.nowhere cause)

def readText (doc : Document) (expected : String) (path : Path) (node : Node) :
    Reading String := do
  match <- doc.follow node with
  | .scalar _ _ _ text _ => return text
  | .sequence mark .. => throw (.here (.wrongType .sequence expected) mark path)
  | .mapping mark .. => throw (.here (.wrongType .mapping expected) mark path)
  | _ => throw doc.ending

/-- Whether a node stands for nothing. Under the tag of null it may not be anything else. -/
def isAbsent (node : Node) : Except Cause Bool :=
  match node with
  | .scalar _ _ tag text .plain =>
    match tag with
    | none => .ok (text == "" || Yaml.isNullWord text.toList)
    | some .null =>
      if Yaml.isNullWord text.toList then .ok true
      else .error (.wrongValue (.string text) "null")
    | some _ => .ok false
  | _ => .ok false

def readUntagged (doc : Document) (path : Path) (node : Node) : Reading Yaml.Value :=
  doc.read false (Yaml.fullDepth - 1) path node

def readPart (doc : Document) (entry : Entry) (path : Path) (node : Node) : Reading Part := do
  if entry.listsTools then
    match ToolList.ofYaml? (<- readUntagged doc path node) with
    | some list => return .tools list
    | none => throw (.nowhere (.noVariant ToolList.typeName))
  else return .text (<- readText doc "a string" path node)

def readPart? (doc : Document) (entry : Entry) (path : Path) (node : Node) :
    Reading (Option Part) := do
  if entry.required then return some (<- readPart doc entry path node)
  let node <- doc.follow node
  if <- failing (isAbsent node) then return none
  return some (<- readPart doc entry path node)

def readEntry (schema : Schema) (doc : Document) (draft : Draft) (keyNode valueNode : Node) :
    Reading Draft := do
  let key <- readText doc "field identifier" .root keyNode
  let path := Document.valuePath .root keyNode
  match schema.find? key with
  | some entry =>
    if draft.isGiven key then throw (.nowhere (.duplicateField key))
    return draft.declare key (<- readPart? doc entry path valueNode)
  | none => return draft.keep key (<- readUntagged doc path valueNode)

def readEntries (schema : Schema) (doc : Document) (draft : Draft) :
    List (Node × Node) -> Reading Draft
  | [] => return draft
  | (key, value) :: rest => do
    let draft <- readEntry schema doc draft key value
    readEntries schema doc draft rest

def scalarCause (schema : Schema) (tag : Option Yaml.Tag) (text : String) (style : Yaml.Style) :
    Cause :=
  match Yaml.Scalar.resolve tag text style with
  | .ok (.value value) => .wrongType value.found schema.expected
  | .ok (.wide i) => .wrongType (.wide i (i < 0)) schema.expected
  | .error expected => .wrongValue (.string text) expected

def readRoot (schema : Schema) (doc : Document) (root : Node) : Reading Header :=
  match root with
  | .mapping mark _ _ entries =>
    placing mark .root do
      let draft <- readEntries schema doc {} entries
      failing (draft.complete schema)
  | .void mark => placing mark .root (failing (({} : Draft).complete schema))
  | .scalar mark _ tag text style =>
    placing mark .root
      (if text == "" && style == .plain then failing (({} : Draft).complete schema)
      else throw (.nowhere (scalarCause schema tag text style)))
  | .sequence mark .. => throw (.here (.wrongType .sequence schema.expected) mark .root)
  | _ => throw doc.ending

def ofText (schema : Schema) (text : String) : Except Fault Header :=
  let doc := Document.ofText text
  doc.readRoot (readRoot schema doc)

end Header
end AgentFiles
