import AgentFiles.Binary64.Decimal
import AgentFiles.Found
import AgentFiles.Text.Digits
import AgentFiles.Yaml.Tag
import AgentFiles.Yaml.Value

/-!
# What a scalar stands for

A plain scalar without a tag is null, a truth value, an integer or a decimal number if it is written
as one, and a text otherwise. An integer has an optional sign and is decimal, or follows one of
`0x`, `0o` and `0b`; digits after a leading zero make a text. An integer beyond 64 bits is no value,
and one beyond 128 bits is a decimal number. A quoted scalar is a text.
-/

namespace AgentFiles
namespace Yaml

def isNullWord (s : List Char) : Bool :=
  ["~", "null", "Null", "NULL"].any fun word => word.toList == s

def boolWord? (s : List Char) : Option Bool :=
  if ["true", "True", "TRUE"].any fun word => word.toList == s then some true
  else if ["false", "False", "FALSE"].any fun word => word.toList == s then some false
  else none

/-- Digits after a leading zero and an optional sign: a text, whatever they may look like. -/
def isPadded (s : List Char) : Bool :=
  let digits :=
    match s with
    | '-' :: rest => rest
    | '+' :: rest => rest
    | _ => s
  match digits with
  | '0' :: rest => !rest.isEmpty && rest.all Text.isDigit
  | _ => false

/-- The size of an integer without its sign; `whole` is the scalar with it. -/
def magnitude? (whole s : List Char) : Option Nat :=
  match s with
  | '0' :: 'x' :: digits => Text.natOf? 16 digits
  | '0' :: 'o' :: digits => Text.natOf? 8 digits
  | '0' :: 'b' :: digits => Text.natOf? 2 digits
  | _ => if isPadded whole then none else Text.natOf? 10 s

def integer? (s : List Char) : Option Int :=
  match s with
  | '-' :: rest => (magnitude? s rest).map fun n => -(n : Int)
  | '+' :: rest => (magnitude? s rest).map fun n => (n : Int)
  | _ => (magnitude? s s).map fun n => (n : Int)

def decimal? (s : List Char) : Option Binary64 :=
  let isInfinity (s : List Char) : Bool :=
    [".inf", ".Inf", ".INF"].any fun word => word.toList == s
  let finite (s : List Char) : Option Binary64 :=
    (Binary64.readDecimal? s).filter (·.isFinite)
  if [".nan", ".NaN", ".NAN"].any fun word => word.toList == s then some .nan
  else
    match s with
    | '+' :: c :: rest =>
      if c == '+' || c == '-' then none
      else if isInfinity (c :: rest) then some (.infinite false)
      else finite (c :: rest)
    | '-' :: rest => if isInfinity rest then some (.infinite true) else finite s
    | _ => if isInfinity s then some (.infinite false) else finite s

inductive Scalar where
  | value (v : Value)
  | wide (i : Int)
deriving Repr

namespace Scalar

/-- Whether an integer has a signed or an unsigned form with a number of bits. -/
def fitsBits (bits : Nat) (i : Int) : Bool :=
  -(Nat.pow 2 (bits - 1) : Nat) ≤ i && i < (Nat.pow 2 bits : Nat)

/-- The integer as a scalar, unless it is beyond 128 bits. -/
def ofInteger? (i : Int) : Option Scalar :=
  if fitsBits 64 i then some (.value (.number (.integer i)))
  else if fitsBits 128 i then some (.wide i)
  else none

def ofPlain (text : String) : Scalar :=
  let s := text.toList
  if s.isEmpty || isNullWord s then .value .null
  else
    match boolWord? s with
    | some b => .value (.bool b)
    | none =>
      match (integer? s).bind ofInteger? with
      | some scalar => scalar
      | none =>
        match if isPadded s then none else decimal? s with
        | some x => .value (.number (.decimal x))
        | none => .value (.string text)

/-- What a scalar stands for; `none` if it is not written as its tag demands, with what that is. -/
def resolve (tag : Option Tag) (text : String) (style : Style) : Except String Scalar :=
  let s := text.toList
  let orElse (found : Option Scalar) (expected : String) : Except String Scalar :=
    match found with
    | some scalar => .ok scalar
    | none => .error expected
  let free : Except String Scalar :=
    .ok (if style == .plain then ofPlain text else .value (.string text))
  match tag with
  | none => free
  | some .bool => orElse ((boolWord? s).map fun b => .value (.bool b)) "a boolean"
  | some .int => orElse ((integer? s).bind ofInteger?) "an integer"
  | some .float => orElse ((decimal? s).map fun x => .value (.number (.decimal x))) "a float"
  | some .null => orElse (if isNullWord s then some (.value .null) else none) "null"
  | some tag => if tag.isLocal then free else .ok (.value (.string text))

end Scalar
end Yaml
end AgentFiles
