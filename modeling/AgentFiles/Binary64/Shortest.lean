import AgentFiles.Binary64

/-!
# The fewest digits that read back

The reals that round to a double form an interval around it, whose ends belong to it when its `m` is
even. On the grid of decimals with a given number of digits only the two neighbours of the double
can be nearest to it, so the first grid with a neighbour inside the interval has the fewest digits.
-/

namespace AgentFiles
namespace Binary64

/-- The decimal exponent `e` with `10 ^ e ≤ num / den < 10 ^ (e + 1)`, for positive numbers. -/
def decimalExponent (num den : Nat) : Int :=
  if den ≤ num then (Nat.toDigits 10 (num / den)).length - 1
  else
    let width := (Nat.toDigits 10 (den / num)).length
    if den ≤ num * Nat.pow 10 (width - 1) then -(width - 1 : Nat) else -(width : Int)

/-- The interval of reals that round to a positive double, in quarters of its last place. -/
structure Interval where
  low : Nat
  middle : Nat
  high : Nat
  closed : Bool
  q : Int

def interval (m : Nat) (q : Int) : Interval where
  low := if m = Nat.pow 2 52 ∧ -1074 < q then 4 * m - 1 else 4 * m - 2
  middle := 4 * m
  high := 4 * m + 2
  closed := m % 2 == 0
  q := q - 2

/-- A decimal `d * 10 ^ k` and a multiple `n * 2 ^ q` over one denominator. -/
def compareScaled (d : Nat) (k : Int) (n : Nat) (q : Int) : Nat × Nat :=
  let (a, b) := if k < 0 then (d, n * Nat.pow 10 (-k).toNat) else (d * Nat.pow 10 k.toNat, n)
  if q < 0 then (a * Nat.pow 2 (-q).toNat, b) else (a, b * Nat.pow 2 q.toNat)

def Interval.contains (i : Interval) (d : Nat) (k : Int) : Bool :=
  let (a, low) := compareScaled d k i.low i.q
  let (b, high) := compareScaled d k i.high i.q
  if i.closed then low ≤ a && b ≤ high else low < a && b < high

/-- The distance of `d * 10 ^ k` from the double, scaled by a factor that depends on `k` alone. -/
def Interval.distance (i : Interval) (d : Nat) (k : Int) : Nat :=
  let (a, b) := compareScaled d k i.middle i.q
  (a - b) + (b - a)

/-- The nearest decimal on the grid `10 ^ k` inside the interval; of two equally near ones the even
one. -/
def Interval.onGrid? (i : Interval) (k : Int) : Option Nat :=
  let (one, value) := compareScaled 1 k i.middle i.q
  let below := value / one
  let above := below + 1
  match i.contains below k, i.contains above k with
  | false, false => none
  | true, false => some below
  | false, true => some above
  | true, true =>
    let near := i.distance below k
    let far := i.distance above k
    if near < far then some below
    else if far < near then some above
    else if below % 2 == 0 then some below else some above

/-- Grids from coarse to fine; with seventeen digits there is always a hit. -/
def Interval.search (i : Interval) (lead : Int) : Nat -> Nat -> Nat × Int
  | 0, _ => (0, 0)
  | fuel + 1, digits =>
    let k := lead - digits + 1
    match i.onGrid? k with
    | some d => (d, k)
    | none => i.search lead fuel (digits + 1)

def dropZeros : Nat -> Nat × Int -> Nat × Int
  | 0, r => r
  | fuel + 1, (d, k) => if d % 10 == 0 && d != 0 then dropZeros fuel (d / 10, k + 1) else (d, k)

/-- The shortest decimal `d * 10 ^ k` that reads back as the positive double `m * 2 ^ q`. -/
def shortest (m : Nat) (q : Int) : Nat × Int :=
  let (num, den) := fraction m q
  dropZeros 17 ((interval m q).search (decimalExponent num den) 17 1)

end Binary64
end AgentFiles
