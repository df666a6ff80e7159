import AgentFiles.Binary64
import AgentFiles.Text.Digits

/-!
# Reading a decimal number

A decimal number is an optional sign, digits with at most one point among or beside them, and an
optional power of ten. It is read to the nearest double.
-/

namespace AgentFiles
namespace Binary64

/-- The double nearest to `n * 10 ^ exponent`. Far out powers are cut off before they are computed:
below a quarter of the least double everything is zero. -/
def ofDecimal (negative : Bool) (n : Nat) (exponent : Int) : Binary64 :=
  if n = 0 then zero negative
  else
    let lead : Int := exponent + (Nat.toDigits 10 n).length
    if 400 < lead then .infinite negative
    else if lead < -400 then zero negative
    else if exponent < 0 then ofRatio negative n (Nat.pow 10 (-exponent).toNat)
    else ofRatio negative (n * Nat.pow 10 exponent.toNat) 1

/-- The power of ten after the letter `e`: an optional sign and at least one digit. -/
def readPower? (s : List Char) : Option Int :=
  let (negative, digits) :=
    match s with
    | '-' :: rest => (true, rest)
    | '+' :: rest => (false, rest)
    | _ => (false, s)
  if digits.isEmpty || !digits.all Text.isDigit then none
  else
    let n : Int := Text.natOf digits
    some (if negative then -n else n)

/-- A decimal number that fills the whole text. There is a digit before or after the point. -/
def readDecimal? (s : List Char) : Option Binary64 :=
  let (negative, s) :=
    match s with
    | '-' :: rest => (true, rest)
    | '+' :: rest => (false, rest)
    | _ => (false, s)
  let (whole, s) := s.span Text.isDigit
  let (part, s) :=
    match s with
    | '.' :: rest => rest.span Text.isDigit
    | _ => ([], s)
  if whole.isEmpty && part.isEmpty then none
  else
    let number (power : Int) :=
      ofDecimal negative (Text.natOf (whole ++ part)) (power - part.length)
    match s with
    | [] => some (number 0)
    | c :: rest => if c == 'e' || c == 'E' then (readPower? rest).map number else none

end Binary64
end AgentFiles
