import AgentFiles.Binary64.Decimal
import AgentFiles.Number

/-!
# Number lexemes

A lexeme keeps a JSON number as it is written. An integer that fits 64 bits stays an integer. Any
other number becomes a double by a short computation: as many leading digits as fit an unsigned
64-bit word are rounded to a double, which one multiplication or division by a power of ten then
scales; so the result can be off by a unit in its last place. Minus zero is a double.
-/

namespace AgentFiles
namespace Json

structure Lexeme where
  negative : Bool
  /-- The digits before the point, without a leading zero unless there is no other digit. -/
  whole : List Char
  /-- The digits after the point; there is a point exactly if there are some. -/
  part : List Char
  /-- The sign of the power of ten and its digits. -/
  power : Option (Bool × List Char)
deriving DecidableEq

namespace Lexeme

/-- Why a lexeme stands for no number: it is beyond the doubles. The count is that of the digits
of its power up to which this was noticed, all of them unless the power alone is too large. -/
structure OutOfRange where
  seen : Option Nat

def wordLimit : Nat := Nat.pow 2 64

/-- Takes leading digits into `significand` while it fits the word; also returns the digits left. -/
def gather (significand : Nat) : List Char -> Nat × List Char
  | [] => (significand, [])
  | c :: rest =>
    let next := 10 * significand + Text.digitValue c
    if next < wordLimit then gather next rest else (significand, c :: rest)

/-- The size of a power of ten, or how many of its digits were seen when it left 32 bits. -/
def gatherPower (power seen : Nat) : List Char -> Nat ⊕ Nat
  | [] => .inl power
  | c :: rest =>
    let next := 10 * power + Text.digitValue c
    if next < Nat.pow 2 31 then gatherPower next (seen + 1) rest else .inr (seen + 1)

def powerOfTen (n : Nat) : Binary64 :=
  Binary64.ofNat (Nat.pow 10 n)

/-- Scales by `10 ^ exponent`, in steps of `308` where one power of ten is beyond the doubles. -/
def scale (x : Binary64) (exponent : Int) : Nat -> Option Binary64
  | 0 => some x
  | fuel + 1 =>
    if exponent.natAbs ≤ 308 then
      if 0 ≤ exponent then
        let y := x.mul (powerOfTen exponent.natAbs)
        if y.isInfinite then none else some y
      else some (x.div (powerOfTen exponent.natAbs))
    else if x.isZero then some x
    else if 0 ≤ exponent then none
    else scale (x.div (powerOfTen 308)) (exponent + 308) fuel

/-- A double that is not zero vanishes after a few steps of `scale`, however far it has to go. -/
def scaleSteps : Nat := 8

def signed (negative : Bool) (x : Binary64) : Binary64 :=
  if negative then x.negate else x

def decimal (l : Lexeme) : Except OutOfRange Binary64 :=
  let (significand, left) := gather 0 l.whole
  let (significand, unread) := gather significand l.part
  let exponent : Int := (left.length : Int) - (l.part.length - unread.length : Nat)
  let finish (significand : Nat) (exponent : Int) : Except OutOfRange Binary64 :=
    match scale (Binary64.ofNat significand) exponent scaleSteps with
    | some x => .ok (signed l.negative x)
    | none => .error ⟨none⟩
  match l.power with
  | none => finish significand exponent
  | some (minus, digits) =>
    match gatherPower 0 0 digits with
    | .inl power => finish significand (if minus then exponent - power else exponent + power)
    | .inr seen =>
      if significand = 0 || minus then .ok (Binary64.zero l.negative)
      else .error ⟨some seen⟩

def value (l : Lexeme) : Except OutOfRange Number :=
  let n := Text.natOf l.whole
  if l.part.isEmpty && l.power.isNone && n < wordLimit then
    if !l.negative then .ok (.integer n)
    else if n ≠ 0 && n ≤ Nat.pow 2 63 then .ok (.integer (-n))
    else .ok (.decimal (Binary64.ofNat n).negate)
  else l.decimal.map .decimal

end Lexeme
end Json
end AgentFiles
