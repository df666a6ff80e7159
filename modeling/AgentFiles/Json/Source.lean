/-!
# A place in a JSON text

A source is what is left of a text together with the number of bytes before it. Faults are placed by
that number.
-/

namespace AgentFiles
namespace Json

structure Source where
  offset : Nat
  rest : List Char
deriving DecidableEq

namespace Source

def start (text : List Char) : Source :=
  ⟨0, text⟩

def isBlank (c : Char) : Bool :=
  c == ' ' || c == '\n' || c == '\r' || c == '\t'

def width (s : List Char) : Nat :=
  (s.map Char.utf8Size).foldr (· + ·) 0

def after (s : Source) (run : List Char) : Source :=
  ⟨s.offset + width run, s.rest.drop run.length⟩

def next (s : Source) : Source :=
  match s.rest with
  | [] => s
  | c :: rest => ⟨s.offset + c.utf8Size, rest⟩

def skipBlanks (s : Source) : Source :=
  s.after (s.rest.takeWhile isBlank)

def isAtEnd (s : Source) : Bool :=
  s.rest.isEmpty

def startsWith (s : Source) (c : Char) : Bool :=
  s.rest.head? == some c

/-- Where a fault about the next byte is placed: behind it, or at the end of the text. -/
def upcoming (s : Source) : Nat :=
  if s.isAtEnd then s.offset else s.offset + 1

end Source
end Json
end AgentFiles
