/-!
# Double-precision numbers

A finite number is `m * 2 ^ q` with `m` below `2 ^ 53` and `q` at least `-1074`; a number with `m`
below `2 ^ 52` has `q = -1074`, so each number has one form. Zero keeps its sign. Every operation
rounds the exact result once, to the nearest number, and to the even `m` of two that are equally
near.
-/

namespace AgentFiles

inductive Binary64 where
  | finite (negative : Bool) (m : Nat) (q : Int)
  | infinite (negative : Bool)
  | nan
deriving DecidableEq, Repr

namespace Binary64

def zero (negative : Bool) : Binary64 :=
  .finite negative 0 (-1074)

/-- The number `num / den` brought to the scale `2 ^ q`, as a new numerator and denominator. -/
def scaleDown (num den : Nat) (q : Int) : Nat × Nat :=
  if q < 0 then (num * Nat.pow 2 (-q).toNat, den) else (num, den * Nat.pow 2 q.toNat)

/-- The nearest natural number to `num / den`, the even one of two. -/
def roundQuotient (num den : Nat) : Nat :=
  let quotient := num / den
  let twice := 2 * (num % den)
  if twice < den then quotient
  else if den < twice then quotient + 1
  else if quotient % 2 == 0 then quotient else quotient + 1

/-- The exponent `e` with `2 ^ e ≤ num / den < 2 ^ (e + 1)`, for positive `num` and `den`. -/
def binaryExponent (num den : Nat) : Int :=
  let guess : Int := (num.log2 : Int) - den.log2
  let (n, d) := scaleDown num den guess
  if d ≤ n then guess else guess - 1

/-- The double nearest to `num / den`; a number beyond the largest double becomes infinite. -/
def ofRatio (negative : Bool) (num den : Nat) : Binary64 :=
  if num = 0 then zero negative
  else
    let q := max (binaryExponent num den - 52) (-1074)
    let (n, d) := scaleDown num den q
    let m := roundQuotient n d
    let (m, q) := if m = Nat.pow 2 53 then (Nat.pow 2 52, q + 1) else (m, q)
    if 971 < q then .infinite negative else .finite negative m q

def ofNat (n : Nat) : Binary64 :=
  ofRatio false n 1

def isNegative : Binary64 -> Bool
  | .finite negative _ _ => negative
  | .infinite negative => negative
  | .nan => false

def isFinite : Binary64 -> Bool
  | .finite .. => true
  | _ => false

def isInfinite : Binary64 -> Bool
  | .infinite _ => true
  | _ => false

def isZero : Binary64 -> Bool
  | .finite _ m _ => m == 0
  | _ => false

def negate : Binary64 -> Binary64
  | .finite negative m q => .finite (!negative) m q
  | .infinite negative => .infinite (!negative)
  | .nan => .nan

/-- `m * 2 ^ q` as a fraction. -/
def fraction (m : Nat) (q : Int) : Nat × Nat :=
  if q < 0 then (m, Nat.pow 2 (-q).toNat) else (m * Nat.pow 2 q.toNat, 1)

/-- The rounded product; a product with an infinite factor is infinite, or no number beside zero. -/
def mul : Binary64 -> Binary64 -> Binary64
  | .finite a m q, .finite b n r =>
    let (num, den) := fraction (m * n) (q + r)
    ofRatio (a != b) num den
  | .nan, _ => .nan
  | _, .nan => .nan
  | x, y => if x.isZero || y.isZero then .nan else .infinite (x.isNegative != y.isNegative)

def div : Binary64 -> Binary64 -> Binary64
  | .finite a m q, .finite b n r =>
    if n = 0 then if m = 0 then .nan else .infinite (a != b)
    else
      let (num, den) := fraction m (q - r)
      ofRatio (a != b) num (den * n)
  | .nan, _ => .nan
  | _, .nan => .nan
  | .infinite a, y => if y.isInfinite then .nan else .infinite (a != y.isNegative)
  | x, .infinite b => zero (x.isNegative != b)

/-- Equality of numbers where both zeros are one and a missing number equals itself. -/
def sameNumber (x y : Binary64) : Bool :=
  x == y || (x.isZero && y.isZero)

end Binary64
end AgentFiles
