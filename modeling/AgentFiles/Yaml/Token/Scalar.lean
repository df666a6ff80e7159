import AgentFiles.Yaml.Token.Property
import AgentFiles.Yaml.Token.Space

/-!
# Reading scalars

Plain scalars end before a comment, a colon that a blank follows, a document marker, a line that is
not indented deeply enough, and in flow context before a comma or a bracket. Quoted scalars end at
their quote. Block scalars take whole lines, from which their indentation is cut.
-/

namespace AgentFiles
namespace Yaml
namespace Token

/-!
## Plain scalars
-/

def isFlowMark (c : Char) : Bool :=
  c == ',' || c == '[' || c == ']' || c == '\x7b' || c == '\x7d'

/-- The longest run of a plain scalar without white space, and whether it stops at a colon that may
not stand where it stands. -/
def plainRun (flow : Bool) : List Char -> List Char × Bool
  | [] => ([], false)
  | c :: rest =>
    if endsWord (some c) then ([], false)
    else if flow && c == ':' && (rest.head?.map fun d => d == '?' || isFlowMark d).getD false then
      ([], true)
    else if (c == ':' && endsWord rest.head?) || (flow && isFlowMark c) then ([], false)
    else
      let (run, stray) := plainRun flow rest
      (c :: run, stray)

/-- A plain scalar as read so far; `text` has its last character first. -/
structure Plain where
  text : List Char := []
  space : Space := {}
  stop : Mark

def readPlainFrom (flow : Bool) (indent : Int) (start : Mark) :
    Nat -> Plain -> Cursor -> Except Problem (Plain × Cursor)
  | 0, plain, c => .ok (plain, c)
  | fuel + 1, plain, c => do
    if c.atDocumentMarker || c.startsWith '#' then return (plain, c)
    let doing := "while scanning a plain scalar"
    let (run, stray) := plainRun flow c.rest
    let rest := c.skip run.length
    let plain :=
      if run.isEmpty then plain
      else
        { text := run.reverse ++ (plain.space.text.reverse ++ plain.text)
          space := {}
          stop := rest.mark }
    if stray then throw (rest.problem doing start "found unexpected ':'")
    if rest.isAtEnd || !endsWord rest.head? then return (plain, rest)
    let refuses (c : Cursor) : Option Problem :=
      if (c.column : Int) < indent then
        some (c.problem doing start "found a tab character that violates indentation")
      else none
    let (space, rest) <- Space.read refuses rest.rest.length plain.space rest
    let plain := { plain with space := space }
    if !flow && (rest.column : Int) < indent then return (plain, rest)
    readPlainFrom flow indent start fuel plain rest

/-- A plain scalar inside a block of the given indentation, and whether a line ends after it. -/
def readPlain (flow : Bool) (indent : Int) (c : Cursor) :
    Except Problem (Token × Bool × Cursor) := do
  let (plain, rest) <-
    readPlainFrom flow (indent + 1) c.mark (c.rest.length + 1) { stop := c.mark } c
  return (⟨.scalar plain.text.reverse .plain, c.mark, plain.stop⟩, plain.space.folded, rest)

/-!
## Quoted scalars
-/

def shortEscape? (c : Char) : Option Char :=
  match c with
  | '0' => some '\x00'
  | 'a' => some '\x07'
  | 'b' => some '\x08'
  | 't' => some '\t'
  | '\t' => some '\t'
  | 'n' => some '\n'
  | 'v' => some '\x0b'
  | 'f' => some '\x0c'
  | 'r' => some '\r'
  | 'e' => some '\x1b'
  | ' ' => some ' '
  | '\x22' => some '\x22'
  | '/' => some '/'
  | '\\' => some '\\'
  | 'N' => some '\u0085'
  | '_' => some '\u00a0'
  | 'L' => some '\u2028'
  | 'P' => some '\u2029'
  | _ => none

def escapeWidth? (c : Char) : Option Nat :=
  match c with
  | 'x' => some 2
  | 'u' => some 4
  | 'U' => some 8
  | _ => none

def readEscape (start : Mark) (c : Cursor) : Except Problem (Char × Cursor) := do
  let doing := "while parsing a quoted scalar"
  let unknown := c.problem doing start "found unknown escape character"
  match c.ahead? 1 with
  | none => throw unknown
  | some letter =>
    match shortEscape? letter, escapeWidth? letter with
    | some char, _ => return (char, c.skip 2)
    | none, none => throw unknown
    | none, some width =>
      let digits := c.skip 2
      let run := digits.rest.take width
      match if run.length < width then none else Text.natOf? 16 run with
      | none => throw (digits.problem doing start "did not find expected hexdecimal number")
      | some n =>
        if (0xD800 ≤ n && n ≤ 0xDFFF) || 0x10FFFF < n then
          throw (digits.problem doing start "found invalid Unicode character escape code")
        return (Char.ofNat n, digits.skip width)

/-- A run without white space, added to `text`, which has its last character first. The flag tells
that the run ends with an escaped line break. -/
def readQuotedRun (single : Bool) (start : Mark) :
    Nat -> List Char -> Cursor -> Except Problem (List Char × Bool × Cursor)
  | 0, text, c => .ok (text, false, c)
  | fuel + 1, text, c => do
    let quote := if single then '\x27' else '\x22'
    match c.head? with
    | none => return (text, false, c)
    | some char =>
      if endsWord (some char) then return (text, false, c)
      if single && char == quote && c.ahead? 1 == some quote then
        readQuotedRun single start fuel (quote :: text) (c.skip 2)
      else if char == quote then return (text, false, c)
      else if !single && char == '\\' then
        if (c.ahead? 1).isSome && endsLine (c.ahead? 1) then
          return (text, true, c.next.skipBreak)
        let (char, rest) <- readEscape start c
        readQuotedRun single start fuel (char :: text) rest
      else readQuotedRun single start fuel (char :: text) c.next

def readQuotedFrom (single : Bool) (start : Mark) :
    Nat -> List Char -> Cursor -> Except Problem (List Char × Cursor)
  | 0, text, c => .ok (text, c)
  | fuel + 1, text, c => do
    let doing := "while scanning a quoted scalar"
    if c.atDocumentMarker then
      throw (c.problem doing start "found unexpected document indicator")
    if c.isAtEnd then throw (c.problem doing start "found unexpected end of stream")
    let (text, escaped, rest) <- readQuotedRun single start (c.rest.length + 1) text c
    if rest.startsWith (if single then '\x27' else '\x22') then return (text, rest.next)
    let (space, rest) <- Space.read (fun _ => none) rest.rest.length { folded := escaped } rest
    readQuotedFrom single start fuel (space.text.reverse ++ text) rest

def readQuoted (single : Bool) (c : Cursor) : Except Problem (Token × Cursor) := do
  let (text, rest) <- readQuotedFrom single c.mark (c.rest.length + 1) [] c.next
  let style := if single then Style.singleQuoted else Style.doubleQuoted
  return (⟨.scalar text.reverse style, c.mark, rest.mark⟩, rest)

/-!
## Block scalars
-/

inductive Chomping where
  | strip
  | clip
  | keep
deriving DecidableEq

def chomping? (c : Option Char) : Option Chomping :=
  match c with
  | some '+' => some .keep
  | some '-' => some .strip
  | _ => none

/-- The digit of an indentation indicator, if one comes next; it may not be zero. -/
def readIndentation (start : Mark) (c : Cursor) : Except Problem (Option Nat × Cursor) :=
  match c.head? with
  | some d =>
    if !Text.isDigit d then .ok (none, c)
    else if d == '0' then
      .error (c.problem "while scanning a block scalar" start
        "found an indentation indicator equal to 0")
    else .ok (some (d.toNat - 48), c.next)
  | none => .ok (none, c)

def readIndicators (start : Mark) (c : Cursor) :
    Except Problem (Chomping × Option Nat × Cursor) := do
  match chomping? c.head? with
  | some chomping =>
    let (increment, rest) <- readIndentation start c.next
    return (chomping, increment, rest)
  | none =>
    let (increment, rest) <- readIndentation start c
    if increment.isNone then return (.clip, none, rest)
    match chomping? rest.head? with
    | some chomping => return (chomping, increment, rest.next)
    | none => return (.clip, increment, rest)

/-- Indentation and empty lines before the next line of content. `indent` is zero as long as it is
not known; `widest` is the widest indentation so far and `breaks` has its last character first. -/
def readBlockBreaks (indent : Nat) (start : Mark) :
    Nat -> Nat -> List Char -> Mark -> Cursor -> Except Problem (Nat × List Char × Mark × Cursor)
  | 0, widest, breaks, stop, c => .ok (widest, breaks, stop, c)
  | fuel + 1, widest, breaks, stop, c => do
    let room := if indent == 0 then c.rest.length else indent - c.column
    let spaces := (c.rest.take room).takeWhile (· == ' ')
    let rest := c.skip spaces.length
    let widest := max widest rest.column
    if (indent == 0 || rest.column < indent) && rest.startsWith '\t' then
      throw (rest.problem "while scanning a block scalar" start
        "found a tab character where an indentation space is expected")
    match rest.head? with
    | some char =>
      if isBreak char then
        let breaks := rest.breakText ++ breaks
        readBlockBreaks indent start fuel widest breaks rest.skipBreak.mark rest.skipBreak
      else return (widest, breaks, stop, rest)
    | none => return (widest, breaks, stop, rest)

/-- A block scalar as read so far. Texts have their last character first. -/
structure Block where
  text : List Char := []
  lastBreak : List Char := []
  /-- The breaks of the empty lines after it. -/
  breaks : List Char
  blankStart : Bool := false
  stop : Mark

def readBlockLines (literal : Bool) (indent : Nat) (start : Mark) :
    Nat -> Block -> Cursor -> Except Problem (Block × Cursor)
  | 0, block, c => .ok (block, c)
  | fuel + 1, block, c => do
    if c.column != indent || c.isAtEnd then return (block, c)
    let blankStart := (c.head?.map isGap).getD false
    let folds := !literal && block.lastBreak == ['\n'] && !block.blankStart && !blankStart
    let joint :=
      if !folds then block.breaks ++ block.lastBreak
      else if block.breaks.isEmpty then [' '] else block.breaks
    let (line, rest) := c.takeWhile fun d => !isBreak d
    let after := rest.skipBreak
    let (_, breaks, stop, next) <-
      readBlockBreaks indent start (after.rest.length + 1) 0 [] after.mark after
    readBlockLines literal indent start fuel
      { text := line.reverse ++ (joint ++ block.text)
        lastBreak := rest.breakText
        breaks := breaks
        blankStart := blankStart
        stop := stop } next

def readBlock (literal : Bool) (parent : Int) (c : Cursor) : Except Problem (Token × Cursor) := do
  let start := c.mark
  let (chomping, increment, rest) <- readIndicators start c.next
  let rest := (rest.skipWhile isGap).skipComment
  if !endsLine rest.head? then
    throw (rest.problem "while scanning a block scalar" start
      "did not find expected comment or line break")
  let after := rest.skipBreak
  let known :=
    match increment with
    | some n => if 0 ≤ parent then parent.toNat + n else n
    | none => 0
  let (widest, breaks, stop, rest) <-
    readBlockBreaks known start (after.rest.length + 1) 0 [] after.mark after
  let indent :=
    if known != 0 then known else max (max widest (parent + 1).toNat) 1
  let (block, rest) <-
    readBlockLines literal indent start (rest.rest.length + 1)
      { breaks := breaks, stop := stop } rest
  let kept := if chomping == .strip then block.text else block.lastBreak ++ block.text
  let kept := if chomping == .keep then block.breaks ++ kept else kept
  let style := if literal then Style.literal else Style.folded
  return (⟨.scalar kept.reverse style, start, block.stop⟩, rest)

end Token
end Yaml
end AgentFiles
