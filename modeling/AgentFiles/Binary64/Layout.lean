import AgentFiles.Binary64.Shortest

/-!
# The text of a double

A layout says which powers of ten are written with a plain point and how the others mark their
power. Every layout writes the shortest digits and keeps a point or a power, so that no number looks
like an integer.
-/

namespace AgentFiles
namespace Binary64

structure Layout where
  /-- Positional where the leading digit stands for `10 ^ e` with `least ≤ e` and `e ≤ most`;
  everywhere when absent. -/
  positional : Option (Int × Int)
  /-- Whether a power that is not negative carries a plus sign. -/
  plus : Bool
  infinity : String
  nan : String

def zeros (n : Nat) : List Char :=
  List.replicate n '0'

/-- The digits with the point after `point` of them, filled up with zeros. -/
def positionalText (digits : List Char) (point : Int) : List Char :=
  if point ≤ 0 then '0' :: '.' :: (zeros (-point).toNat ++ digits)
  else
    let n := point.toNat
    if digits.length ≤ n then digits ++ zeros (n - digits.length) ++ ['.', '0']
    else digits.take n ++ '.' :: digits.drop n

def powerText (layout : Layout) (digits : List Char) (power : Int) : List Char :=
  let mantissa :=
    match digits with
    | first :: rest => if rest.isEmpty then [first] else first :: '.' :: rest
    | [] => []
  let sign := if power < 0 then ['-'] else if layout.plus then ['+'] else []
  mantissa ++ 'e' :: (sign ++ Nat.toDigits 10 power.natAbs)

def magnitudeText (layout : Layout) : Binary64 -> List Char
  | .nan => layout.nan.toList
  | .infinite _ => layout.infinity.toList
  | .finite _ m q =>
    if m = 0 then ['0', '.', '0']
    else
      let (d, k) := shortest m q
      let digits := Nat.toDigits 10 d
      let point : Int := k + digits.length
      let plain :=
        match layout.positional with
        | none => true
        | some (least, most) => least ≤ point - 1 && point - 1 ≤ most
      if plain then positionalText digits point else powerText layout digits (point - 1)

def text (layout : Layout) (x : Binary64) : String :=
  let body := magnitudeText layout x
  String.ofList (if x.isNegative then '-' :: body else body)

end Binary64
end AgentFiles
