import AgentFiles.Yaml.Mark

/-!
# Syntax problems

A problem says what is wrong and where, and mostly also what was being read and where that began.
The text of a message gives the place of the problem, and that of the context where it is another.
-/

namespace AgentFiles
namespace Yaml

structure Problem where
  what : String
  mark : Mark
  /-- The number of bytes before a character that no text may hold. -/
  offset : Nat := 0
  context : Option (String × Mark) := none
deriving Repr

namespace Problem

def place (p : Problem) : String :=
  if !p.mark.isOrigin then " at " ++ p.mark.text
  else if p.offset != 0 then s!" at position {p.offset}"
  else ""

def contextText (p : Problem) : String :=
  match p.context with
  | none => ""
  | some (doing, start) =>
    let apart := start.line != p.mark.line || start.column != p.mark.column
    ", " ++ doing ++ (if !start.isOrigin && apart then " at " ++ start.text else "")

def message (p : Problem) : String :=
  p.what ++ p.place ++ p.contextText

end Problem
end Yaml
end AgentFiles
