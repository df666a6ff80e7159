/-!
# Length in UTF-16 units

Editors count a text in UTF-16 code units: one for a character of the Basic Multilingual Plane and
two for any other.
-/

namespace AgentFiles
namespace Text

def unitsOf (c : Char) : Nat :=
  if c.toNat < 0x10000 then 1 else 2

def units16 (s : String) : Nat :=
  (s.toList.map unitsOf).foldr (· + ·) 0

end Text
end AgentFiles
