import AgentFiles.Found
import AgentFiles.Yaml.Problem
import AgentFiles.Yaml.Value

/-!
# Faults of YAML texts

A text may be malformed, or hold another value than what is expected. In the second case the fault
has a cause, and mostly also a place: a mark, and the path of keys and indices from the root of the
document to the value. A fault that is found without a place takes that of the innermost value that
is being read; faults of values that are no longer in a text have none.
-/

namespace AgentFiles
namespace Yaml

def numberLayout : Binary64.Layout where
  positional := some (-5, 15)
  plus := false
  infinity := ".inf"
  nan := ".nan"

def numberText : Number -> String
  | .integer i => toString i
  | .decimal x => x.text numberLayout

def wording : Found.Wording where
  unit := "unit value"
  decimal :=
    { positional := none
      plus := false
      infinity := "inf.0"
      nan := "NaN.0" }

/-!
## Paths
-/

inductive Path where
  | root
  | key (parent : Path) (name : String)
  | item (parent : Path) (index : Nat)
  /-- The value of a key that is not written as a scalar. -/
  | unnamed (parent : Path)
deriving DecidableEq, Repr

namespace Path

mutual

def text : Path -> String
  | root => "."
  | key parent name => parent.stem ++ name
  | item parent index => s!"{parent.text}[{index}]"
  | unnamed parent => parent.stem ++ "?"

/-- A path as it stands before the name of a key in it. -/
def stem : Path -> String
  | root => ""
  | key parent name => parent.stem ++ name ++ "."
  | item parent index => s!"{parent.text}[{index}]."
  | unnamed parent => parent.stem ++ "?."

end

end Path

/-!
## Causes
-/

inductive Cause where
  | wrongType (found : Found) (expected : String)
  | wrongValue (found : Found) (expected : String)
  | missingField (name : String)
  | duplicateField (name : String)
  | duplicateKey (key : Value)
  | noVariant (type : String)
  | tagNotAllowed

def Value.asKey : Value -> String
  | .null => "with null key"
  | .bool true => "with key `true`"
  | .bool false => "with key `false`"
  | .number n => s!"with key {numberText n}"
  | .string s => s!"with key {Text.quoted s}"
  | _ => "in YAML map"

def Cause.message : Cause -> String
  | .wrongType found expected => s!"invalid type: {found.describe wording}, expected {expected}"
  | .wrongValue found expected => s!"invalid value: {found.describe wording}, expected {expected}"
  | .missingField name => s!"missing field `{name}`"
  | .duplicateField name => s!"duplicate field `{name}`"
  | .duplicateKey key => s!"duplicate entry {key.asKey}"
  | .noVariant type => s!"data did not match any variant of untagged enum {type}"
  | .tagNotAllowed => "untagged and internally tagged enums do not support enum input"

/-!
## Faults
-/

inductive Fault where
  | invalid (cause : Cause) (place : Option (Mark × Path))
  | malformed (problem : Problem)
  | unknownAnchor (mark : Mark)
  | tooDeep (mark : Mark)
  | tooManyJumps
  | endOfStream
  | severalDocuments

namespace Fault

def here (cause : Cause) (mark : Mark) (path : Path) : Fault :=
  .invalid cause (some (mark, path))

def nowhere (cause : Cause) : Fault :=
  .invalid cause none

/-- Gives a fault the place of the value that is being read, unless it has one. -/
def placedAt (mark : Mark) (path : Path) : Fault -> Fault
  | .invalid cause none => .invalid cause (some (mark, path))
  | fault => fault

/-- A mark behind a message; nothing for the start of the text. -/
def place (mark : Mark) : String :=
  if mark.isOrigin then "" else " at " ++ mark.text

/-- A path in front of a message; nothing for one that looks like the root. -/
def stem (path : Path) : String :=
  if path.text = "." then "" else path.text ++ ": "

def message : Fault -> String
  | invalid cause none => cause.message
  | invalid cause (some (mark, path)) =>
    stem path ++ cause.message ++ place mark
  | malformed problem => problem.message
  | unknownAnchor mark => "unknown anchor" ++ place mark
  | tooDeep mark => "recursion limit exceeded" ++ place mark
  | tooManyJumps => "repetition limit exceeded"
  | endOfStream => "EOF while parsing a value"
  | severalDocuments =>
    "deserializing from YAML containing more than one document is not supported"

end Fault
end Yaml
end AgentFiles
