import AgentFiles.Text.Blank
import AgentFiles.Text.Numeral

/-!
# Limits

Names and descriptions that are longer than a limit give a warning. The limits can be set by
variables of the environment; a variable that holds no number below `2 ^ 64` is not looked at.
-/

namespace AgentFiles

structure Limits where
  name : Nat := 100
  description : Nat := 1024
deriving DecidableEq, Repr

namespace Limits

def nameVariable : String := "CLAUDESTASH_MAX_NAME_LENGTH"

def descriptionVariable : String := "CLAUDESTASH_MAX_DESCRIPTION_LENGTH"

def width : Text.Width where
  least := 0
  most := (Nat.pow 2 64 : Nat) - 1

/-- The limit that a text sets: digits, after a plus sign or not, with blanks around them or not. -/
def ofText? (text : String) : Option Nat :=
  (width.read? (Text.trim text.toList)).map Int.toNat

def ofVariables (value? : String -> Option String) : Limits :=
  let limit (variableName : String) (standard : Nat) : Nat :=
    ((value? variableName).bind ofText?).getD standard
  { name := limit nameVariable 100
    description := limit descriptionVariable 1024 }

end Limits
end AgentFiles
