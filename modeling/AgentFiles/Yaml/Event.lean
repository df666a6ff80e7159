import AgentFiles.Yaml.Token.Stream

/-!
# Events of a YAML text

Events are the nodes of a text in its order: a scalar, an alias, and the start and the end of a
collection. The grammar goes from one event to the next. It has a goal, which says what may come
next, and the goals that wait for it to be reached; `starts` holds where the open collections began.
A node that is left out is an empty plain scalar.
-/

namespace AgentFiles
namespace Yaml

inductive Event.Body where
  | documentStart
  | documentEnd
  | streamEnd
  | alias (name : List Char)
  | scalar (anchor : Option (List Char)) (tag : Option Octets) (text : List Char) (style : Style)
  | sequenceStart (anchor : Option (List Char)) (tag : Option Octets)
  | sequenceEnd
  | mappingStart (anchor : Option (List Char)) (tag : Option Octets)
  | mappingEnd
deriving Repr

structure Event where
  body : Event.Body
  mark : Mark
deriving Repr

inductive Goal where
  | document (first : Bool)
  | content
  | documentEnd
  | node
  | blockItem (first : Bool)
  | plainItem
  | blockKey (first : Bool)
  | blockValue
  | flowItem (first : Bool)
  | pairKey
  | pairValue
  | pairEnd
  | flowKey (first : Bool)
  | flowValue
  | flowNoValue
  | nothing
deriving DecidableEq, Repr

structure Grammar where
  stream : Stream
  goal : Goal := .document true
  goals : List Goal := []
  starts : List Mark := []
  /-- The handles that directives declare, with what they stand for. -/
  handles : List (List Char × Octets) := []

namespace Grammar

abbrev Step := Except Problem (Event × Grammar)

def peek (g : Grammar) : Except Problem (Token × Grammar) := do
  let (token, stream) <- g.stream.peek
  return (token, { g with stream := stream })

def pass (g : Grammar) : Except Problem (Token × Grammar) :=
  { g with stream := g.stream.drop }.peek

def drop (g : Grammar) : Grammar :=
  { g with stream := g.stream.drop }

def await (g : Grammar) (goal : Goal) : Grammar :=
  { g with goals := goal :: g.goals }

def aim (g : Grammar) (goal : Goal) : Grammar :=
  { g with goal := goal }

def resume (g : Grammar) : Grammar :=
  { g with goal := g.goals.head?.getD .nothing, goals := g.goals.drop 1 }

def enter (g : Grammar) (mark : Mark) : Grammar :=
  { g with starts := mark :: g.starts }

def leave (g : Grammar) : Grammar :=
  { g with starts := g.starts.drop 1 }

def within (g : Grammar) (doing : String) (token : Token) (what : String) : Problem :=
  { what := what
    mark := token.start
    context := some (doing, g.starts.head?.getD token.start) }

def event (body : Event.Body) (mark : Mark) (g : Grammar) : Event × Grammar :=
  (⟨body, mark⟩, g)

def empty (mark : Mark) (g : Grammar) : Event × Grammar :=
  event (.scalar none none [] .plain) mark g

/-!
## Nodes
-/

structure Properties where
  anchor : Option (List Char) := none
  tag : Option (List Char × Octets × Mark) := none
  start : Mark

/-- An anchor and a tag, each at most once and in either order, and the token after them. -/
def properties (token : Token) (g : Grammar) : Except Problem (Properties × Token × Grammar) := do
  let start := token.start
  match token.body with
  | .anchor name =>
    let (token, g) <- g.pass
    match token.body with
    | .tag handle suffix =>
      let (next, g) <- g.pass
      return (⟨some name, some (handle, suffix, token.start), start⟩, next, g)
    | _ => return (⟨some name, none, start⟩, token, g)
  | .tag handle suffix =>
    let tag := (handle, suffix, start)
    let (token, g) <- g.pass
    match token.body with
    | .anchor name =>
      let (next, g) <- g.pass
      return (⟨some name, some tag, start⟩, next, g)
    | _ => return (⟨none, some tag, start⟩, token, g)
  | _ => return (⟨none, none, start⟩, token, g)

def bangHandle : List Char := ['!']

def coreHandle : List Char := ['!', '!']

def coreStem : Octets :=
  octets "tag:yaml.org,2002:".toList

/-- What a handle stands for: what a directive says, or else its default. -/
def stem? (g : Grammar) (handle : List Char) : Option Octets :=
  match g.handles.find? fun entry => entry.1 == handle with
  | some entry => some entry.2
  | none =>
    if handle == bangHandle then some (octets bangHandle)
    else if handle == coreHandle then some coreStem
    else none

/-- Octets up to the first null, which ends a tag. -/
def upToNull (s : Octets) : Octets :=
  s.takeWhile (· != 0)

def resolveTag (g : Grammar) (start : Mark) (tag : List Char × Octets × Mark) :
    Except Problem Octets :=
  let (handle, suffix, mark) := tag
  if handle.isEmpty then .ok (upToNull suffix)
  else
    match g.stem? handle with
    | some stem => .ok (upToNull stem ++ upToNull suffix)
    | none =>
      .error
        { what := "found undefined tag handle"
          mark := mark
          context := some ("while parsing a node", start) }

/-- The node that comes next. Block collections may begin only where `block` allows them, and a
sequence without indentation of its own only where `plain` does. -/
def node (block plain : Bool) (g : Grammar) : Step := do
  let (token, g) <- g.peek
  match token.body with
  | .alias name => return event (.alias name) token.start g.drop.resume
  | _ =>
    let (properties, token, g) <- properties token g
    let tag <-
      match properties.tag with
      | none => pure none
      | some tag => (g.resolveTag properties.start tag).map some
    let anchor := properties.anchor
    let start := properties.start
    match token.body with
    | .scalar text style => return event (.scalar anchor tag text style) start g.drop.resume
    | .flowSequenceStart => return event (.sequenceStart anchor tag) start (g.aim (.flowItem true))
    | .flowMappingStart => return event (.mappingStart anchor tag) start (g.aim (.flowKey true))
    | body =>
      if plain && body == .blockEntry then
        return event (.sequenceStart anchor tag) start (g.aim .plainItem)
      else if block && body == .blockSequenceStart then
        return event (.sequenceStart anchor tag) start (g.aim (.blockItem true))
      else if block && body == .blockMappingStart then
        return event (.mappingStart anchor tag) start (g.aim (.blockKey true))
      else if anchor.isSome || tag.isSome then
        return event (.scalar anchor tag [] .plain) start g.resume
      else
        throw
          { what := "did not find expected node content"
            mark := token.start
            context :=
              some (if block then "while parsing a block node" else "while parsing a flow node",
                start) }

/-!
## Documents
-/

structure Directives where
  version : Bool := false
  handles : List (List Char × Octets) := []

def readDirectives : Nat -> Directives -> Token -> Grammar ->
    Except Problem (Directives × Token × Grammar)
  | 0, found, token, g => .ok (found, token, g)
  | fuel + 1, found, token, g => do
    match token.body with
    | .version major minor =>
      if found.version then
        throw { what := "found duplicate %YAML directive", mark := token.start }
      if major != 1 || (minor != 1 && minor != 2) then
        throw { what := "found incompatible YAML document", mark := token.start }
      let (next, g) <- g.pass
      readDirectives fuel { found with version := true } next g
    | .tagHandle handle stem =>
      if found.handles.any fun entry => entry.1 == handle then
        throw { what := "found duplicate %TAG directive", mark := token.start }
      let (next, g) <- g.pass
      readDirectives fuel { found with handles := found.handles ++ [(handle, stem)] } next g
    | _ => return (found, token, g)

def skipDocumentEnds : Nat -> Token -> Grammar -> Except Problem (Token × Grammar)
  | 0, token, g => .ok (token, g)
  | fuel + 1, token, g =>
    if token.body == .documentEnd then do
      let (token, g) <- g.pass
      skipDocumentEnds fuel token g
    else .ok (token, g)

def Token.opensDocument : Token.Body -> Bool
  | .version .. => true
  | .tagHandle .. => true
  | .documentStart => true
  | _ => false

/-- The start of a document or the end of the stream. Only the first document may begin without a
marker, and only a later one may come after end markers. -/
def document (first : Bool) (g : Grammar) : Step := do
  let fuel := g.stream.cursor.rest.length + g.stream.queue.length + 2
  let (token, g) <- g.peek
  let (token, g) <- if first then pure (token, g) else skipDocumentEnds fuel token g
  if token.body == .streamEnd then return event .streamEnd token.start (g.drop.aim .nothing)
  else if first && !Token.opensDocument token.body then
    return event .documentStart token.start ((g.await .documentEnd).aim .node)
  else
    let start := token.start
    let (found, token, g) <- readDirectives fuel {} token { g with handles := [] }
    if token.body != .documentStart then
      throw { what := "did not find expected <document start>", mark := token.start }
    let g := { g with handles := found.handles }
    return event .documentStart start ((g.drop.await .documentEnd).aim .content)

def content (g : Grammar) : Step := do
  let (token, g) <- g.peek
  if Token.opensDocument token.body || token.body == .documentEnd || token.body == .streamEnd then
    return empty token.start g.resume
  else g.node true false

def documentEnd (g : Grammar) : Step := do
  let (token, g) <- g.peek
  let g := { (if token.body == .documentEnd then g.drop else g) with handles := [] }
  return event .documentEnd token.start (g.aim (.document false))

/-!
## Block collections
-/

def begin (first : Bool) (g : Grammar) : Except Problem Grammar := do
  if !first then return g
  let (token, g) <- g.peek
  return (g.enter token.start).drop

def finish (body : Event.Body) (token : Token) (g : Grammar) : Event × Grammar :=
  event body token.start g.drop.resume.leave

def blockItem (first : Bool) (g : Grammar) : Step := do
  let g <- g.begin first
  let (token, g) <- g.peek
  match token.body with
  | .blockEntry =>
    let stop := token.stop
    let (token, g) <- g.pass
    if token.body == .blockEntry || token.body == .blockEnd then
      return empty stop (g.aim (.blockItem false))
    else (g.await (.blockItem false)).node true false
  | .blockEnd => return finish .sequenceEnd token g
  | _ =>
    throw (g.within "while parsing a block collection" token "did not find expected '-' indicator")

/-- An item of a sequence that has the indentation of the mapping around it. -/
def plainItem (g : Grammar) : Step := do
  let (token, g) <- g.peek
  match token.body with
  | .blockEntry =>
    let stop := token.stop
    let (token, g) <- g.pass
    let ends := token.body == .blockEntry || token.body == .key || token.body == .value ||
      token.body == .blockEnd
    if ends then return empty stop (g.aim .plainItem)
    else (g.await .plainItem).node true false
  | _ => return event .sequenceEnd token.start g.resume

/-- A key or a value of a block mapping after its indicator, which stopped at `stop`. -/
def blockPart (next : Goal) (stop : Mark) (g : Grammar) : Step := do
  let (token, g) <- g.pass
  if token.body == .key || token.body == .value || token.body == .blockEnd then
    return empty stop (g.aim next)
  else (g.await next).node true true

def blockKey (first : Bool) (g : Grammar) : Step := do
  let g <- g.begin first
  let (token, g) <- g.peek
  match token.body with
  | .key => g.blockPart .blockValue token.stop
  | .blockEnd => return finish .mappingEnd token g
  | _ => throw (g.within "while parsing a block mapping" token "did not find expected key")

def blockValue (g : Grammar) : Step := do
  let (token, g) <- g.peek
  match token.body with
  | .value => g.blockPart (.blockKey false) token.stop
  | _ => return empty token.start (g.aim (.blockKey false))

/-!
## Flow collections
-/

def flowItem (first : Bool) (g : Grammar) : Step := do
  let g <- g.begin first
  let (token, g) <- g.peek
  if token.body == .flowSequenceEnd then return finish .sequenceEnd token g
  let (token, g) <-
    if first then pure (token, g)
    else if token.body == .flowEntry then g.pass
    else
      throw
        (g.within "while parsing a flow sequence" token "did not find expected ',' or ']'")
  match token.body with
  | .key => return event (.mappingStart none none) token.start (g.drop.aim .pairKey)
  | .flowSequenceEnd => return finish .sequenceEnd token g
  | _ => (g.await (.flowItem false)).node false false

/-- The key of a pair that stands as an item by itself. -/
def pairKey (g : Grammar) : Step := do
  let (token, g) <- g.peek
  match token.body with
  | .value => return empty token.stop (g.drop.aim .pairValue)
  | .flowEntry => return empty token.stop (g.drop.aim .pairValue)
  | .flowSequenceEnd => return empty token.stop (g.drop.aim .pairValue)
  | _ => (g.await .pairValue).node false false

def pairValue (g : Grammar) : Step := do
  let (token, g) <- g.peek
  if token.body == .value then
    let (token, g) <- g.pass
    if token.body == .flowEntry || token.body == .flowSequenceEnd then
      return empty token.start (g.aim .pairEnd)
    else (g.await .pairEnd).node false false
  else return empty token.start (g.aim .pairEnd)

def pairEnd (g : Grammar) : Step := do
  let (token, g) <- g.peek
  return event .mappingEnd token.start (g.aim (.flowItem false))

def flowKey (first : Bool) (g : Grammar) : Step := do
  let g <- g.begin first
  let (token, g) <- g.peek
  if token.body == .flowMappingEnd then return finish .mappingEnd token g
  let (token, g) <-
    if first then pure (token, g)
    else if token.body == .flowEntry then g.pass
    else
      throw
        (g.within "while parsing a flow mapping" token "did not find expected ',' or '\x7d'")
  match token.body with
  | .key =>
    let (token, g) <- g.pass
    if token.body == .value || token.body == .flowEntry || token.body == .flowMappingEnd then
      return empty token.start (g.aim .flowValue)
    else (g.await .flowValue).node false false
  | .flowMappingEnd => return finish .mappingEnd token g
  | _ => (g.await .flowNoValue).node false false

def flowValue (g : Grammar) : Step := do
  let (token, g) <- g.peek
  if token.body == .value then
    let (token, g) <- g.pass
    if token.body == .flowEntry || token.body == .flowMappingEnd then
      return empty token.start (g.aim (.flowKey false))
    else (g.await (.flowKey false)).node false false
  else return empty token.start (g.aim (.flowKey false))

def flowNoValue (g : Grammar) : Step := do
  let (token, g) <- g.peek
  return empty token.start (g.aim (.flowKey false))

def next (g : Grammar) : Step :=
  match g.goal with
  | .document first => g.document first
  | .content => g.content
  | .documentEnd => g.documentEnd
  | .node => g.node true false
  | .blockItem first => g.blockItem first
  | .plainItem => g.plainItem
  | .blockKey first => g.blockKey first
  | .blockValue => g.blockValue
  | .flowItem first => g.flowItem first
  | .pairKey => g.pairKey
  | .pairValue => g.pairValue
  | .pairEnd => g.pairEnd
  | .flowKey first => g.flowKey first
  | .flowValue => g.flowValue
  | .flowNoValue => g.flowNoValue
  | .nothing => .ok (event .streamEnd g.stream.cursor.mark g)

end Grammar
end Yaml
end AgentFiles
