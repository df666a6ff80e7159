import AgentFiles.Yaml.Cursor

/-!
# White space between two pieces of a scalar

Blanks within a line are kept. A line break takes the place of the blanks before it, and the blanks
after it are the indentation of the next line. One line feed folds into a space and is dropped where
more breaks follow it; a line or paragraph separator is kept.
-/

namespace AgentFiles
namespace Yaml

structure Space where
  /-- Blanks on the line of the piece before, last first. -/
  blanks : List Char := []
  folded : Bool := false
  /-- What the first break stands for. -/
  first : List Char := []
  /-- What the other breaks stand for, last first. -/
  others : List Char := []

namespace Space

def text (s : Space) : List Char :=
  if !s.folded then s.blanks.reverse
  else if s.first == ['\n'] then
    if s.others.isEmpty then [' '] else s.others.reverse
  else s.first ++ s.others.reverse

def addBlank (s : Space) (c : Char) : Space :=
  if s.folded then s else { s with blanks := c :: s.blanks }

def addBreak (s : Space) (br : List Char) : Space :=
  if s.folded then { s with others := br.reverse ++ s.others }
  else { blanks := [], folded := true, first := br, others := s.others }

/-- Moves over blanks and breaks. A tab that `refuses` finds in the indentation is a problem. -/
def read (refuses : Cursor -> Option Problem) :
    Nat -> Space -> Cursor -> Except Problem (Space × Cursor)
  | 0, s, c => .ok (s, c)
  | fuel + 1, s, c =>
    match c.head? with
    | none => .ok (s, c)
    | some char =>
      if isGap char then
        match if s.folded && char == '\t' then refuses c else none with
        | some problem => .error problem
        | none => read refuses fuel (s.addBlank char) c.next
      else if isBreak char then read refuses fuel (s.addBreak c.breakText) c.skipBreak
      else .ok (s, c)

end Space
end Yaml
end AgentFiles
