import AgentFiles.Json.Node
import AgentFiles.Json.Value

/-!
# Reading and skipping syntax

Reading an untyped value takes each member of an object, the last one for a repeated key. Arrays and
objects nest at most 127 deep in what is read; what is skipped may nest deeper.
-/

namespace AgentFiles
namespace Json

def Lexeme.read (l : Lexeme) (stop : Nat) : Except Fault Number :=
  match l.value with
  | .ok n => .ok n
  | .error ⟨none⟩ => .error (.here .numberOutOfRange stop)
  | .error ⟨some seen⟩ =>
    let digits := match l.power with | some (_, digits) => digits.length | none => 0
    .error (.here .numberOutOfRange (stop - digits + seen))

/-- The depth that is left inside an array or an object at `start`. -/
def descend (depth start : Nat) : Except Fault Nat :=
  match depth with
  | inner + 2 => .ok (inner + 1)
  | _ => .error (.here .tooDeep (start + 1))

def fullDepth : Nat := 128

mutual

def Node.skip : Node -> Except Fault Unit
  | .array _ items => items.skip
  | .object _ _ members => members.skip
  | .broken _ _ _ skip => .error skip
  | _ => .ok ()

def Items.skip : Items -> Except Fault Unit
  | .closed _ => .ok ()
  | .broken _ skip _ => .error skip
  | .item _ node rest => do
    node.skip
    rest.skip

def Members.skip : Members -> Except Fault Unit
  | .closed _ => .ok ()
  | .broken _ skip => .error skip
  | .member _ _ node rest => do
    node.skip
    rest.skip

end

mutual

def Node.read (depth : Nat) : Node -> Except Fault Value
  | .null _ _ => .ok .null
  | .bool b _ _ => .ok (.bool b)
  | .number lexeme _ stop => (lexeme.read stop).map .number
  | .string content _ _ => content.map .string
  | .array start items => do
    let depth <- descend depth start
    return .array (<- items.read depth)
  | .object start _ members => do
    let depth <- descend depth start
    return .object (Keyed.ofList (<- members.read depth))
  | .broken _ _ read _ => .error read

def Items.read (depth : Nat) : Items -> Except Fault (List Value)
  | .closed _ => .ok []
  | .broken read _ _ => .error read
  | .item _ node rest => do
    let value <- node.read depth
    return value :: (<- rest.read depth)

/-- The members as they are written, with repeated keys. -/
def Members.read (depth : Nat) : Members -> Except Fault (List (String × Value))
  | .closed _ => .ok []
  | .broken read _ => .error read
  | .member key _ node rest => do
    let key <- key
    let value <- node.read depth
    return (key, value) :: (<- rest.read depth)

end

def load {α : Type} (read : Node -> Except Fault α) (text : String) : Except Fault α := do
  let (node, rest) := Node.ofText text.toList
  let value <- read node
  match rest with
  | none => return value
  | some rest =>
    let rest := rest.skipBlanks
    if rest.isAtEnd then return value else throw (rest.unexpected .trailingCharacters)

def Value.ofText (text : String) : Except Fault Value :=
  load (Node.read fullDepth) text

end Json
end AgentFiles
