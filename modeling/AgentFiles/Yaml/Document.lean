import AgentFiles.Yaml.Event
import AgentFiles.Yaml.Fault
import AgentFiles.Yaml.Tag

/-!
# Documents

A document is the tree of the nodes of its events. Anchors are numbered and an alias holds a number;
it stands for the last node of the document under that number. A number counts the names that were
in use when the anchor came, so that a name that is given a second time may share its number with
the name after it.

A text that stops being well-formed keeps the nodes before that place and a cut where they end.
-/

namespace AgentFiles
namespace Yaml

inductive Node where
  | scalar (mark : Mark) (anchor : Option Nat) (tag : Option Tag) (text : String) (style : Style)
  | alias (mark : Mark) (number : Nat)
  | sequence (mark : Mark) (anchor : Option Nat) (tag : Option Tag) (items : List Node)
  | mapping (mark : Mark) (anchor : Option Nat) (tag : Option Tag) (entries : List (Node × Node))
  /-- A text without any node. -/
  | void (mark : Mark)
  | cut

namespace Node

def isNumbered (number : Nat) (anchor : Option Nat) : Bool :=
  anchor == some number

mutual

/-- The last node under a number, in the order in which nodes begin. -/
def last? (number : Nat) : Node -> Option Node
  | scalar mark anchor tag text style =>
    if isNumbered number anchor then some (scalar mark anchor tag text style) else none
  | sequence mark anchor tag items =>
    (lastOfItems? number items).or
      (if isNumbered number anchor then some (sequence mark anchor tag items) else none)
  | mapping mark anchor tag entries =>
    (lastOfEntries? number entries).or
      (if isNumbered number anchor then some (mapping mark anchor tag entries) else none)
  | _ => none

def lastOfItems? (number : Nat) : List Node -> Option Node
  | [] => none
  | node :: rest => (lastOfItems? number rest).or (node.last? number)

def lastOfEntries? (number : Nat) : List (Node × Node) -> Option Node
  | [] => none
  | (key, value) :: rest =>
    (lastOfEntries? number rest).or ((value.last? number).or (key.last? number))

end

end Node

structure Document where
  root : Node
  /-- The number of events. -/
  size : Nat
  flaw : Option Fault
  more : Bool

/-!
## Building the tree
-/

/-- A collection that is not closed yet; the last item or entry comes first. -/
inductive Frame where
  | sequence (mark : Mark) (anchor : Option Nat) (tag : Option Tag) (items : List Node)
  | mapping (mark : Mark) (anchor : Option Nat) (tag : Option Tag) (entries : List (Node × Node))
      (key : Option Node)

namespace Frame

def add (node : Node) : Frame -> Frame
  | sequence mark anchor tag items => .sequence mark anchor tag (node :: items)
  | mapping mark anchor tag entries none => .mapping mark anchor tag entries (some node)
  | mapping mark anchor tag entries (some key) =>
    .mapping mark anchor tag ((key, node) :: entries) none

def close : Frame -> Node
  | sequence mark anchor tag items => .sequence mark anchor tag items.reverse
  | mapping mark anchor tag entries _ => .mapping mark anchor tag entries.reverse

/-- Closes a collection that ends with a node that was cut off, as a key or as a value. -/
def cutOff (node : Node) : Frame -> Node
  | mapping mark anchor tag entries none =>
    .mapping mark anchor tag ((node, .cut) :: entries).reverse
  | frame => (frame.add node).close

end Frame

structure Assembly where
  frames : List Frame := []
  root : Option Node := none
  names : List (List Char × Nat) := []
  size : Nat := 0

namespace Assembly

def add (a : Assembly) (node : Node) : Assembly :=
  match a.frames with
  | frame :: frames => { a with frames := frame.add node :: frames }
  | [] => { a with root := some node }

def close (a : Assembly) : Assembly :=
  match a.frames with
  | frame :: frames => { a with frames := frames }.add frame.close
  | [] => a

/-- Numbers an anchor, and gives its name that number from now on. -/
def number (a : Assembly) : Option (List Char) -> Option Nat × Assembly
  | none => (none, a)
  | some name =>
    let number := a.names.length
    let others := a.names.filter fun entry => entry.1 != name
    (some number, { a with names := (name, number) :: others })

def numberOf? (a : Assembly) (name : List Char) : Option Nat :=
  (a.names.find? fun entry => entry.1 == name).map (·.2)

def take (a : Assembly) (event : Event) : Except Fault Assembly :=
  let a := { a with size := a.size + 1 }
  let mark := event.mark
  match event.body with
  | .alias name =>
    match a.numberOf? name with
    | some number => .ok (a.add (.alias mark number))
    | none => .error (.unknownAnchor mark)
  | .scalar anchor tag text style =>
    let (anchor, a) := a.number anchor
    .ok (a.add (.scalar mark anchor (tag.map Tag.ofOctets) (String.ofList text) style))
  | .sequenceStart anchor tag =>
    let (anchor, a) := a.number anchor
    .ok { a with frames := .sequence mark anchor (tag.map Tag.ofOctets) [] :: a.frames }
  | .mappingStart anchor tag =>
    let (anchor, a) := a.number anchor
    .ok { a with frames := .mapping mark anchor (tag.map Tag.ofOctets) [] none :: a.frames }
  | .sequenceEnd => .ok a.close
  | .mappingEnd => .ok a.close
  | _ => .ok a

def tree (a : Assembly) : Node :=
  match a.root with
  | some node => node
  | none => a.frames.foldl Frame.cutOff .cut

end Assembly

namespace Document

def broken (a : Assembly) (fault : Fault) : Document :=
  { root := a.tree, size := a.size, flaw := some fault, more := false }

def goesOn (g : Grammar) : Bool :=
  match g.next with
  | .ok (event, _) =>
    match event.body with
    | .streamEnd => false
    | _ => true
  | .error _ => true

def assemble : Nat -> Assembly -> Grammar -> Document
  | 0, a, _ => broken a .endOfStream
  | fuel + 1, a, g =>
    match g.next with
    | .error problem => broken a (.malformed problem)
    | .ok (event, g) =>
      match event.body with
      | .documentStart => assemble fuel a g
      | .documentEnd => { root := a.tree, size := a.size, flaw := none, more := goesOn g }
      | .streamEnd => { root := .void event.mark, size := 1, flaw := none, more := false }
      | _ =>
        match a.take event with
        | .ok a => assemble fuel a g
        | .error fault => broken a fault

/-!
## Texts
-/

def isAllowed (c : Char) : Bool :=
  let n := c.toNat
  n == 0x9 || n == 0xA || n == 0xD || (0x20 ≤ n && n ≤ 0x7E) || n == 0x85 ||
    (0xA0 ≤ n && n ≤ 0xFFFD) || 0x10000 ≤ n

/-- The number of bytes before the first character that is not allowed, if there is one. -/
def findControl? (offset : Nat) : List Char -> Option Nat
  | [] => none
  | c :: rest => if isAllowed c then findControl? (offset + c.utf8Size) rest else some offset

def bodyOf (text : List Char) (offset : Nat) : Document :=
  match findControl? offset text with
  | some offset =>
    broken {} (.malformed
      { what := "control characters are not allowed", mark := {}, offset := offset })
  | none => assemble (8 * text.length + 16) {} { stream := .ofText text }

/-- The first document of a text, which may begin with a byte order mark. -/
def ofText (text : String) : Document :=
  match text.toList with
  | '\ufeff' :: rest => bodyOf rest 3
  | s => bodyOf s 0

end Document
end Yaml
end AgentFiles
