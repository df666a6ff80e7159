import AgentFiles.Binary64

/-!
# Numbers of a data file

A number in a data file is an integer that fits 64 bits, signed or not, or a double.
-/

namespace AgentFiles

inductive Number where
  | integer (i : Int)
  | decimal (x : Binary64)
deriving DecidableEq, Repr

namespace Number

def isZero : Number -> Bool
  | .integer i => i == 0
  | .decimal x => x.isZero

/-- Equality of keys: kinds are kept apart, both decimal zeros are one number. -/
def same : Number -> Number -> Bool
  | .integer i, .integer j => i == j
  | .decimal x, .decimal y => x.sameNumber y
  | _, _ => false

end Number
end AgentFiles
