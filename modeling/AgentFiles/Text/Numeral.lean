import AgentFiles.Text.Digits

/-!
# Numerals of a fixed width

A numeral is a run of digits, behind a sign or not. It is read digit by digit into a number that
has to stay between two bounds, and reading ends without a number at the first digit that would
leave them.
-/

namespace AgentFiles
namespace Text

def isSign (c : Char) : Bool :=
  c == '+' || c == '-'

def signLength (s : List Char) : Nat :=
  if s.head?.any isSign then 1 else 0

/-- The whole numbers between two bounds, with zero among them. -/
structure Width where
  least : Int
  most : Int
  least_le_zero : least ≤ 0 := by decide
  zero_le_most : 0 ≤ most := by decide

namespace Width

def fit? (width : Width) (i : Int) : Option Int :=
  if width.least ≤ i ∧ i ≤ width.most then some i else none

/-- The number with one more digit behind it. Ten times the number has to fit, and so has the sum.
Behind a hyphen the digit is taken away. -/
def push? (width : Width) (negative : Bool) (i : Int) (c : Char) : Option Int :=
  if isDigit c then
    (width.fit? (10 * i)).bind fun tenfold =>
      width.fit? (if negative then tenfold - digitValue c else tenfold + digitValue c)
  else none

/-- Whether a numeral is negative, and what stands behind its sign. Where no number is below zero
a hyphen is no sign. -/
def splitSign (width : Width) (s : List Char) : Bool × List Char :=
  match s with
  | '+' :: rest => (false, rest)
  | '-' :: rest => if width.least < 0 then (true, rest) else (false, s)
  | _ => (false, s)

def read? (width : Width) (s : List Char) : Option Int :=
  let (negative, digits) := width.splitSign s
  if digits.isEmpty then none else digits.foldlM (width.push? negative) 0

end Width
end Text
end AgentFiles
