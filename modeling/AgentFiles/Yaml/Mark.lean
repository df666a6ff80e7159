/-!
# Places in a YAML text

A mark counts characters: all before the place, those on its line, and the lines before it.
-/

namespace AgentFiles
namespace Yaml

structure Mark where
  index : Nat := 0
  line : Nat := 0
  column : Nat := 0
deriving DecidableEq, Repr

namespace Mark

def isOrigin (m : Mark) : Bool :=
  m.line == 0 && m.column == 0

/-- The place as a message shows it: line and column count from one. -/
def text (m : Mark) : String :=
  if m.isOrigin then s!"position {m.index}"
  else s!"line {m.line + 1} column {m.column + 1}"

end Mark
end Yaml
end AgentFiles
