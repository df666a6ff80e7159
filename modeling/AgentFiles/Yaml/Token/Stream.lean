import AgentFiles.Yaml.Token.Scalar

/-!
# The stream of tokens

Tokens are found one after the other, but some only show later what came before them: a colon makes
a mapping key of the simple key before it, and may open a block mapping there. So tokens wait in a
queue, and the first of them is handed out once no key can be put in front of it any more. Block
collections are closed by falling back to a smaller indentation.
-/

namespace AgentFiles
namespace Yaml

/-- A place where a simple key may have begun. -/
structure SimpleKey where
  /-- Whether the block structure has no other reading for the line. -/
  required : Bool
  /-- The number of the token that begins there, among all tokens. -/
  number : Nat
  mark : Mark
deriving Repr

structure Stream where
  cursor : Cursor
  queue : List Token := []
  /-- How many tokens were handed out. -/
  taken : Nat := 0
  /-- The column of the innermost block collection. -/
  indent : Int := -1
  indents : List Int := []
  /-- How many flow collections are open. -/
  flow : Nat := 0
  /-- The candidate for a simple key on each flow level, innermost first. -/
  keys : List (Option SimpleKey) := [none]
  keyAllowed : Bool := true

namespace Stream

def ofText (text : List Char) : Stream :=
  { cursor := .start text }

def inFlow (s : Stream) : Bool :=
  0 < s.flow

def push (s : Stream) (token : Token) : Stream :=
  { s with queue := s.queue ++ [token] }

/-- Queues a token that takes no characters. -/
def pushHere (s : Stream) (body : Token.Body) : Stream :=
  s.push ⟨body, s.cursor.mark, s.cursor.mark⟩

def pushMark (s : Stream) (body : Token.Body) (width : Nat) : Stream :=
  let stop := s.cursor.skip width
  { s.push ⟨body, s.cursor.mark, stop.mark⟩ with cursor := stop }

def insertAt (s : Stream) (number : Nat) (token : Token) : Stream :=
  let (before, after) := s.queue.splitAt (number - s.taken)
  { s with queue := before ++ token :: after }

/-!
## Simple keys
-/

def unclosedKey (s : Stream) (key : SimpleKey) : Problem :=
  s.cursor.problem "while scanning a simple key" key.mark "could not find expected ':'"

/-- A simple key stays on its line and is at most 1024 characters long. -/
def isStale (s : Stream) (key : SimpleKey) : Bool :=
  key.mark.line < s.cursor.line || key.mark.index + 1024 < s.cursor.index

/-- Forgets the candidates that the cursor has left behind. One that is required may not be. -/
def dropStale (s : Stream) : Except Problem Stream := do
  let stale (key : Option SimpleKey) : Bool := (key.map s.isStale).getD false
  match s.keys.reverse.find? fun key => stale key && (key.map (·.required)).getD false with
  | some (some key) => throw (s.unclosedKey key)
  | _ => return { s with keys := s.keys.map fun key => if stale key then none else key }

def dropKey (s : Stream) : Except Problem Stream :=
  match s.keys with
  | some key :: keys =>
    if key.required then .error (s.unclosedKey key) else .ok { s with keys := none :: keys }
  | _ => .ok s

def saveKey (s : Stream) : Except Problem Stream := do
  if !s.keyAllowed then return s
  let key : SimpleKey :=
    { required := !s.inFlow && s.indent == s.cursor.column
      number := s.taken + s.queue.length
      mark := s.cursor.mark }
  let s <- s.dropKey
  return { s with keys := some key :: s.keys.drop 1 }

/-!
## Indentation
-/

/-- Opens a block collection at a column that is deeper than the current one, in front of the token
with the given number or at the end of the queue. -/
def openBlock (s : Stream) (column : Nat) (number : Option Nat) (body : Token.Body) (mark : Mark) :
    Stream :=
  if s.inFlow || (column : Int) ≤ s.indent then s
  else
    let token : Token := ⟨body, mark, mark⟩
    let s := { s with indents := s.indent :: s.indents, indent := column }
    match number with
    | some n => s.insertAt n token
    | none => s.push token

def closeBlocks (s : Stream) (column : Int) : Stream :=
  if s.inFlow || s.indent ≤ column then s
  else
    let closed := s.indents.takeWhile fun outer => column < outer
    let close : Token := ⟨.blockEnd, s.cursor.mark, s.cursor.mark⟩
    { s with
      queue := s.queue ++ List.replicate (closed.length + 1) close
      indent := (s.indents.drop closed.length).head?.getD (-1)
      indents := s.indents.drop (closed.length + 1) }

/-!
## One token
-/

/-- Moves over white space and comments. Outside of flow collections a line break lets a simple key
begin, and then a tab is no white space. -/
def skipToToken : Nat -> Stream -> Stream
  | 0, s => s
  | fuel + 1, s =>
    let c := s.cursor
    let c := if c.column == 0 && c.startsWith '\ufeff' then c.next else c
    let tabs := s.inFlow || !s.keyAllowed
    let c := (c.skipWhile fun d => d == ' ' || (tabs && d == '\t')).skipComment
    if !c.isAtEnd && endsLine c.head? then
      skipToToken fuel
        { s with cursor := c.skipBreak, keyAllowed := s.keyAllowed || !s.inFlow }
    else { s with cursor := c }

def fetchEnd (s : Stream) : Except Problem Stream := do
  let mark := s.cursor.mark
  let mark := if mark.column = 0 then mark else { mark with line := mark.line + 1, column := 0 }
  let s := { s with cursor := { s.cursor with mark := mark } }.closeBlocks (-1)
  let s <- s.dropKey
  return { s with keyAllowed := false }.pushHere .streamEnd

def fetchDirective (s : Stream) : Except Problem Stream := do
  let s <- (s.closeBlocks (-1)).dropKey
  let (token, rest) <- Token.readDirective s.cursor
  return { s.push token with cursor := rest, keyAllowed := false }

def fetchMarker (s : Stream) (body : Token.Body) : Except Problem Stream := do
  let s <- (s.closeBlocks (-1)).dropKey
  return { s with keyAllowed := false }.pushMark body 3

def fetchFlowStart (s : Stream) (body : Token.Body) : Except Problem Stream := do
  let s <- s.saveKey
  let s := { s with keys := none :: s.keys, flow := s.flow + 1, keyAllowed := true }
  return s.pushMark body 1

def fetchFlowEnd (s : Stream) (body : Token.Body) : Except Problem Stream := do
  let s <- s.dropKey
  let s := if s.inFlow then { s with keys := s.keys.drop 1, flow := s.flow - 1 } else s
  return { s with keyAllowed := false }.pushMark body 1

def fetchFlowEntry (s : Stream) : Except Problem Stream := do
  let s <- s.dropKey
  return { s with keyAllowed := true }.pushMark .flowEntry 1

def misplaced (s : Stream) (what : String) : Problem :=
  { what := what ++ " are not allowed in this context", mark := s.cursor.mark }

/-- Opens a block collection for an indicator at the cursor, which may not follow other content. -/
def openForIndicator (s : Stream) (body : Token.Body) (what : String) :
    Except Problem Stream :=
  if s.inFlow then .ok s
  else if !s.keyAllowed then .error (s.misplaced what)
  else .ok (s.openBlock s.cursor.column none body s.cursor.mark)

def fetchBlockEntry (s : Stream) : Except Problem Stream := do
  let s <- s.openForIndicator .blockSequenceStart "block sequence entries"
  let s <- s.dropKey
  return { s with keyAllowed := true }.pushMark .blockEntry 1

def fetchKey (s : Stream) : Except Problem Stream := do
  let s <- s.openForIndicator .blockMappingStart "mapping keys"
  let s <- s.dropKey
  return { s with keyAllowed := !s.inFlow }.pushMark .key 1

def fetchValue (s : Stream) : Except Problem Stream := do
  match s.keys with
  | some key :: keys =>
    let s := s.insertAt key.number ⟨.key, key.mark, key.mark⟩
    let s := s.openBlock key.mark.column (some key.number) .blockMappingStart key.mark
    return { s with keys := none :: keys, keyAllowed := false }.pushMark .value 1
  | _ =>
    let s <- s.openForIndicator .blockMappingStart "mapping values"
    return { s with keyAllowed := !s.inFlow }.pushMark .value 1

/-- A token that may begin a simple key and after which none may begin. -/
def fetchContent (s : Stream) (read : Cursor -> Except Problem (Token × Cursor)) :
    Except Problem Stream := do
  let s <- s.saveKey
  let (token, rest) <- read s.cursor
  return { s.push token with cursor := rest, keyAllowed := false }

def fetchAnchor (s : Stream) : Except Problem Stream :=
  s.fetchContent fun c => do
    let (name, rest) <- Token.readName "while scanning an anchor" c
    return (⟨.anchor name, c.mark, rest.mark⟩, rest)

def fetchAlias (s : Stream) : Except Problem Stream :=
  s.fetchContent fun c => do
    let (name, rest) <- Token.readName "while scanning an alias" c
    return (⟨.alias name, c.mark, rest.mark⟩, rest)

def fetchTag (s : Stream) : Except Problem Stream :=
  s.fetchContent fun c => do
    let ((handle, suffix), rest) <- Token.readTag s.inFlow c
    return (⟨.tag handle suffix, c.mark, rest.mark⟩, rest)

def fetchQuoted (s : Stream) (single : Bool) : Except Problem Stream :=
  s.fetchContent (Token.readQuoted single)

def fetchBlockScalar (s : Stream) (literal : Bool) : Except Problem Stream := do
  let s <- s.dropKey
  let (token, rest) <- Token.readBlock literal s.indent s.cursor
  return { s.push token with cursor := rest, keyAllowed := true }

/-- A plain scalar that ends with its line lets a simple key begin on the next one. -/
def fetchPlain (s : Stream) : Except Problem Stream := do
  let s <- s.saveKey
  let (token, lineEnded, rest) <- Token.readPlain s.inFlow s.indent s.cursor
  return { s.push token with cursor := rest, keyAllowed := lineEnded }

def startsPlain (flow : Bool) (c : Char) (next : Option Char) : Bool :=
  let indicators := "-?:,[]\x7b\x7d#&*!|>\x27\x22%@\x60".toList
  (!endsWord (some c) && !indicators.contains c) ||
    (c == '-' && !((next.map isGap).getD false)) ||
    (!flow && (c == '?' || c == ':') && !endsWord next)

def fetch (s : Stream) : Except Problem Stream := do
  let s <- (skipToToken (s.cursor.rest.length + 1) s).dropStale
  let s := s.closeBlocks s.cursor.column
  match s.cursor.head? with
  | none => s.fetchEnd
  | some c =>
    let next := s.cursor.ahead? 1
    if s.cursor.column == 0 && c == '%' then s.fetchDirective
    else if s.cursor.atMarker '-' then s.fetchMarker .documentStart
    else if s.cursor.atMarker '.' then s.fetchMarker .documentEnd
    else if c == '[' then s.fetchFlowStart .flowSequenceStart
    else if c == '\x7b' then s.fetchFlowStart .flowMappingStart
    else if c == ']' then s.fetchFlowEnd .flowSequenceEnd
    else if c == '\x7d' then s.fetchFlowEnd .flowMappingEnd
    else if c == ',' then s.fetchFlowEntry
    else if c == '-' && endsWord next then s.fetchBlockEntry
    else if c == '?' && (s.inFlow || endsWord next) then s.fetchKey
    else if c == ':' && (s.inFlow || endsWord next) then s.fetchValue
    else if c == '*' then s.fetchAlias
    else if c == '&' then s.fetchAnchor
    else if c == '!' then s.fetchTag
    else if c == '|' && !s.inFlow then s.fetchBlockScalar true
    else if c == '>' && !s.inFlow then s.fetchBlockScalar false
    else if c == '\x27' then s.fetchQuoted true
    else if c == '\x22' then s.fetchQuoted false
    else if startsPlain s.inFlow c next then s.fetchPlain
    else
      throw (s.cursor.problem "while scanning for the next token" s.cursor.mark
        "found character that cannot start any token")

/-!
## Handing out
-/

def settle : Nat -> Stream -> Except Problem Stream
  | 0, s => .ok s
  | fuel + 1, s => do
    if s.queue.isEmpty then settle fuel (<- s.fetch)
    else
      let s <- s.dropStale
      let waits := s.keys.any fun key => (key.map fun k => k.number == s.taken).getD false
      if waits then settle fuel (<- s.fetch) else return s

/-- The next token, which stays in the queue. -/
def peek (s : Stream) : Except Problem (Token × Stream) := do
  let s <- settle (s.cursor.rest.length + 4) s
  match s.queue with
  | token :: _ => return (token, s)
  | [] => return (⟨.streamEnd, s.cursor.mark, s.cursor.mark⟩, s)

def drop (s : Stream) : Stream :=
  { s with queue := s.queue.drop 1, taken := s.taken + 1 }

end Stream
end Yaml
end AgentFiles
