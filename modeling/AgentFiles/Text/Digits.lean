/-!
# Digits

A digit is decimal or hexadecimal. Letters stand for the digits from ten on, in either case.
-/

namespace AgentFiles
namespace Text

def isDigit (c : Char) : Bool :=
  '0' ≤ c && c ≤ '9'

def digitValue (c : Char) : Nat :=
  c.toNat - 48

def natOf (digits : List Char) : Nat :=
  digits.foldl (fun n c => 10 * n + digitValue c) 0

def hexValue? (c : Char) : Option Nat :=
  if '0' ≤ c ∧ c ≤ '9' then some (c.toNat - 48)
  else if 'a' ≤ c ∧ c ≤ 'f' then some (c.toNat - 87)
  else if 'A' ≤ c ∧ c ≤ 'F' then some (c.toNat - 55)
  else none

/-- The number that digits of a radix write, at least one of them and nothing else. -/
def natOf? (radix : Nat) (s : List Char) : Option Nat :=
  if s.isEmpty then none
  else
    s.foldlM (fun n c =>
      match hexValue? c with
      | some d => if d < radix then some (radix * n + d) else none
      | none => none) 0

end Text
end AgentFiles
