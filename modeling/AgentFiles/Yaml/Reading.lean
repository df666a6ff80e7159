import AgentFiles.Yaml.Document
import AgentFiles.Yaml.Scalar

/-!
# Reading values from a document

A value is read at a depth, which is how many collections may still be entered, and at a path. An
alias is a jump to the node it stands for. A document with `n` events allows `100 * n` jumps, which
bounds the work that nested aliases ask for. Keys may repeat while a value is read; a value as such
has no repeated key, so that is looked at afterwards.
-/

namespace AgentFiles
namespace Yaml

def fullDepth : Nat := 128

/-- A computation that counts jumps. -/
abbrev Reading := StateT Nat (Except Fault)

/-!
## Repeated keys
-/

namespace Value

mutual

def repeatedKey? : Value -> Option Value
  | .sequence items => repeatedInItems? items
  | .mapping entries => repeatedInEntries? [] entries
  | .tagged _ value => value.repeatedKey?
  | _ => none

def repeatedInItems? : List Value -> Option Value
  | [] => none
  | value :: rest => value.repeatedKey?.or (repeatedInItems? rest)

def repeatedInEntries? (seen : List Value) : List (Value × Value) -> Option Value
  | [] => none
  | (key, value) :: rest =>
    key.repeatedKey?.or
      ((seen.find? fun other => other.same key).or
        (value.repeatedKey?.or (repeatedInEntries? (key :: seen) rest)))

end

/-- What a message says was found; tags do not count. -/
def found : Value -> Found
  | .null => .unit
  | .bool b => .bool b
  | .number n => .number n
  | .string s => .string s
  | .sequence _ => .sequence
  | .mapping _ => .mapping
  | .tagged _ value => value.found

/-- The value under a local tag; other tags leave no trace. -/
def under (tag : Option Tag) (value : Value) : Value :=
  match tag with
  | some (.named name) => .tagged (Tag.text name) value
  | _ => value

end Value

namespace Document

def ending (doc : Document) : Fault :=
  doc.flaw.getD .endOfStream

def jump (doc : Document) (number : Nat) : Reading Node := do
  let jumps := (<- get) + 1
  if 100 * doc.size < jumps then throw .tooManyJumps
  set jumps
  match doc.root.last? number with
  | some node => return node
  | none => throw doc.ending

def follow (doc : Document) (node : Node) : Reading Node :=
  match node with
  | .alias _ number => doc.jump number
  | node => return node

def readScalar (tag : Option Tag) (text : String) (style : Style) : Except Cause Value :=
  match Scalar.resolve tag text style with
  | .ok (.value value) => .ok value
  | .ok (.wide i) => .error (.wrongType (.wide i (i < 0)) "any value")
  | .error expected => .error (.wrongValue (.string text) expected)

def hasName (tag : Option Tag) : Bool :=
  match tag with
  | some (.named _) => true
  | _ => false

def readItems (read : Path -> Node -> Reading Value) (path : Path) (index : Nat) :
    List Node -> Reading (List Value)
  | [] => return []
  | node :: rest => do
    let value <- read (.item path index) node
    return value :: (<- readItems read path (index + 1) rest)

def valuePath (path : Path) (key : Node) : Path :=
  match key with
  | .scalar _ _ _ text _ => .key path text
  | _ => .unnamed path

def readEntries (read : Path -> Node -> Reading Value) (path : Path) :
    List (Node × Node) -> Reading (List (Value × Value))
  | [] => return []
  | (keyNode, valueNode) :: rest => do
    let key <- read path keyNode
    let value <- read (valuePath path keyNode) valueNode
    return (key, value) :: (<- readEntries read path rest)

/-- Reads a node. Local tags are kept where `tags` says so and are faults elsewhere; `inner` reads
what is inside of a collection, if there may be one. -/
def readAt (doc : Document) (tags : Bool) (inner : Option (Path -> Node -> Reading Value))
    (path : Path) (node : Node) : Reading Value := do
  let enter (mark : Mark) : Except Fault (Path -> Node -> Reading Value) :=
    match inner with
    | some read => .ok read
    | none => .error (.tooDeep mark)
  let checkTag (mark : Mark) (tag : Option Tag) : Except Fault Unit :=
    if hasName tag && !tags then .error (.here .tagNotAllowed mark path) else .ok ()
  match <- doc.follow node with
  | .scalar mark _ tag text style =>
    checkTag mark tag
    match readScalar tag text style with
    | .ok value => return value.under tag
    | .error cause => throw (.here cause mark path)
  | .sequence mark _ tag items =>
    checkTag mark tag
    let read <- enter mark
    return Value.under tag (.sequence (<- readItems read path 0 items))
  | .mapping mark _ tag entries =>
    checkTag mark tag
    let read <- enter mark
    return Value.under tag (.mapping (<- readEntries read path entries))
  | .void _ => return .null
  | _ => throw doc.ending

def read (doc : Document) (tags : Bool) : Nat -> Path -> Node -> Reading Value
  | 0 => doc.readAt tags none
  | depth + 1 => doc.readAt tags (some (doc.read tags depth))

def readRoot {α : Type} (doc : Document) (read : Node -> Reading α) : Except Fault α := do
  let (result, _) <- read doc.root |>.run 0
  if let some fault := doc.flaw then throw fault
  if doc.more then throw .severalDocuments
  return result

end Document

def Value.ofText (text : String) : Except Fault Value := do
  let doc := Document.ofText text
  let value <- doc.readRoot (doc.read true fullDepth .root)
  match value.repeatedKey? with
  | some key => throw (.nowhere (.duplicateKey key))
  | none => return value

end Yaml
end AgentFiles
