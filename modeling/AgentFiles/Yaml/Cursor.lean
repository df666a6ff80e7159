import AgentFiles.Yaml.Problem

/-!
# Moving through a YAML text

A cursor is what is left of a text and the mark before it. Five line breaks are known: carriage
return, line feed, both together, next line, and the line and paragraph separators. Folding keeps
the two separators and turns every other break into a line feed.
-/

namespace AgentFiles
namespace Yaml

def isBreak (c : Char) : Bool :=
  c == '\n' || c == '\r' || c.toNat == 0x85 || c.toNat == 0x2028 || c.toNat == 0x2029

def isGap (c : Char) : Bool :=
  c == ' ' || c == '\t'

def isWordChar (c : Char) : Bool :=
  ('0' ≤ c && c ≤ '9') || ('A' ≤ c && c ≤ 'Z') || ('a' ≤ c && c ≤ 'z') || c == '_' || c == '-'

/-- Whether nothing, a break or a blank comes next. -/
def endsWord : Option Char -> Bool
  | none => true
  | some c => isGap c || isBreak c

def endsLine : Option Char -> Bool
  | none => true
  | some c => isBreak c

structure Cursor where
  rest : List Char
  mark : Mark
deriving Repr

namespace Cursor

def start (text : List Char) : Cursor :=
  ⟨text, {}⟩

def head? (c : Cursor) : Option Char :=
  c.rest.head?

def ahead? (c : Cursor) (n : Nat) : Option Char :=
  c.rest[n]?

def isAtEnd (c : Cursor) : Bool :=
  c.rest.isEmpty

def startsWith (c : Cursor) (char : Char) : Bool :=
  c.head? == some char

def index (c : Cursor) : Nat := c.mark.index

def line (c : Cursor) : Nat := c.mark.line

def column (c : Cursor) : Nat := c.mark.column

/-- Moves over `n` characters of a line. -/
def skip (c : Cursor) (n : Nat) : Cursor :=
  let moved := (c.rest.take n).length
  ⟨c.rest.drop n, { c.mark with index := c.mark.index + moved, column := c.mark.column + moved }⟩

def next (c : Cursor) : Cursor :=
  c.skip 1

def skipBreak (c : Cursor) : Cursor :=
  let past (n : Nat) : Cursor :=
    ⟨c.rest.drop n, { index := c.mark.index + n, line := c.mark.line + 1, column := 0 }⟩
  match c.rest with
  | '\r' :: '\n' :: _ => past 2
  | d :: _ => if isBreak d then past 1 else c
  | [] => c

/-- What a line break that comes next stands for. -/
def breakText (c : Cursor) : List Char :=
  match c.rest with
  | d :: _ =>
    if d.toNat == 0x2028 || d.toNat == 0x2029 then [d]
    else if isBreak d then ['\n'] else []
  | [] => []

def takeWhile (c : Cursor) (p : Char -> Bool) : List Char × Cursor :=
  let run := c.rest.takeWhile p
  (run, c.skip run.length)

def skipWhile (c : Cursor) (p : Char -> Bool) : Cursor :=
  (c.takeWhile p).2

def skipComment (c : Cursor) : Cursor :=
  if c.startsWith '#' then c.skipWhile fun d => !isBreak d else c

/-- Whether a document marker, three times the given character, stands at the start of the line. -/
def atMarker (c : Cursor) (char : Char) : Bool :=
  c.column == 0 && c.rest.take 3 == [char, char, char] && endsWord (c.ahead? 3)

def atDocumentMarker (c : Cursor) : Bool :=
  c.atMarker '-' || c.atMarker '.'

/-- A problem at the cursor, while doing something that began at `start`. -/
def problem (c : Cursor) (doing : String) (start : Mark) (what : String) : Problem :=
  { what := what, mark := c.mark, context := some (doing, start) }

end Cursor
end Yaml
end AgentFiles
