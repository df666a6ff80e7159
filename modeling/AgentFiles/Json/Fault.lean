import AgentFiles.Found

/-!
# Faults of JSON texts

A fault has a cause and, for most causes, a place in the text, given as a number of bytes from its
start. A message shows the place as a line and a column: the line counts line feeds before the
place and the column counts bytes after the last of them.
-/

namespace AgentFiles
namespace Json

inductive Cause where
  | endInValue
  | endInList
  | endInObject
  | endInString
  | expectedValue
  | expectedWord
  | expectedColon
  | expectedListCommaOrEnd
  | expectedObjectCommaOrEnd
  | trailingComma
  | trailingCharacters
  | keyNotString
  | invalidNumber
  | numberOutOfRange
  | invalidEscape
  | unfinishedPair
  | loneSurrogate
  | controlCharacter
  | tooDeep
  | wrongType (found : Found) (expected : String)
  | wrongValue (found : Found) (expected : String)
  | wrongLength (length : Nat) (expected : String)
  | unknownVariant (name : String) (known : List String)
  | missingField (name : String)
  | duplicateField (name : String)
  | noVariant (type : String)

structure Fault where
  cause : Cause
  place : Option Nat

def decimalLayout : Binary64.Layout where
  positional := some (-5, 15)
  plus := true
  infinity := "inf"
  nan := "NaN"

def wording : Found.Wording where
  unit := "null"
  decimal := decimalLayout

def ticked (names : List String) : String :=
  ", ".intercalate (names.map fun name => s!"`{name}`")

def Cause.message : Cause -> String
  | .endInValue => "EOF while parsing a value"
  | .endInList => "EOF while parsing a list"
  | .endInObject => "EOF while parsing an object"
  | .endInString => "EOF while parsing a string"
  | .expectedValue => "expected value"
  | .expectedWord => "expected ident"
  | .expectedColon => "expected `:`"
  | .expectedListCommaOrEnd => "expected `,` or `]`"
  | .expectedObjectCommaOrEnd => "expected `,` or `\x7d`"
  | .trailingComma => "trailing comma"
  | .trailingCharacters => "trailing characters"
  | .keyNotString => "key must be a string"
  | .invalidNumber => "invalid number"
  | .numberOutOfRange => "number out of range"
  | .invalidEscape => "invalid escape"
  | .unfinishedPair => "unexpected end of hex escape"
  | .loneSurrogate => "lone leading surrogate in hex escape"
  | .controlCharacter => "control character (\\u0000-\\u001F) found while parsing a string"
  | .tooDeep => "recursion limit exceeded"
  | .wrongType found expected => s!"invalid type: {found.describe wording}, expected {expected}"
  | .wrongValue found expected => s!"invalid value: {found.describe wording}, expected {expected}"
  | .wrongLength length expected => s!"invalid length {length}, expected {expected}"
  | .unknownVariant name known => s!"unknown variant `{name}`, expected one of {ticked known}"
  | .missingField name => s!"missing field `{name}`"
  | .duplicateField name => s!"duplicate field `{name}`"
  | .noVariant type => s!"data did not match any variant of untagged enum {type}"

/-- The line and the column of a place, for a text given from its start. -/
def lineColumn (text : List Char) (place : Nat) : Nat × Nat :=
  let step (state : Nat × Nat × Nat) (c : Char) : Nat × Nat × Nat :=
    let (offset, line, column) := state
    if place ≤ offset then state
    else if c == '\n' then (offset + 1, line + 1, 0)
    else (offset + c.utf8Size, line, column + min c.utf8Size (place - offset))
  let (_, line, column) := text.foldl step (0, 1, 0)
  (line, column)

def Fault.message (text : String) (fault : Fault) : String :=
  match fault.place with
  | none => fault.cause.message
  | some place =>
    let (line, column) := lineColumn text.toList place
    s!"{fault.cause.message} at line {line} column {column}"

end Json
end AgentFiles
