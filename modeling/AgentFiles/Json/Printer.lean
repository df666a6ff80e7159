import AgentFiles.Json.Fault
import AgentFiles.Json.Value
import AgentFiles.Text.Commas

/-!
# The compact text of a JSON value

There are no blanks between tokens. A string escapes the quote, the backslash and the characters
below U+0020, and shows everything else as it is.
-/

namespace AgentFiles
namespace Json

def hexDigit (n : Nat) : Char :=
  if n < 10 then Char.ofNat (48 + n) else Char.ofNat (87 + n)

def escapedChar (c : Char) : List Char :=
  if c == '\x22' then ['\\', '\x22']
  else if c == '\\' then ['\\', '\\']
  else if c == '\x08' then ['\\', 'b']
  else if c == '\x0c' then ['\\', 'f']
  else if c == '\n' then ['\\', 'n']
  else if c == '\r' then ['\\', 'r']
  else if c == '\t' then ['\\', 't']
  else if c.toNat < 0x20 then
    ['\\', 'u', '0', '0', hexDigit (c.toNat / 16), hexDigit (c.toNat % 16)]
  else [c]

def stringText (s : String) : List Char :=
  '\x22' :: (s.toList.flatMap escapedChar ++ ['\x22'])

def integerText (i : Int) : List Char :=
  if i < 0 then '-' :: Nat.toDigits 10 i.natAbs else Nat.toDigits 10 i.natAbs

def numberText : Number -> List Char
  | .integer i => integerText i
  | .decimal x => (x.text decimalLayout).toList

mutual

def Value.chars : Value -> List Char
  | .null => ['n', 'u', 'l', 'l']
  | .bool true => ['t', 'r', 'u', 'e']
  | .bool false => ['f', 'a', 'l', 's', 'e']
  | .number n => numberText n
  | .string s => stringText s
  | .array items => '[' :: (Text.joinCommas (itemChars items) ++ [']'])
  | .object members => '\x7b' :: (Text.joinCommas (memberChars members) ++ ['\x7d'])

def itemChars : List Value -> List (List Char)
  | [] => []
  | value :: rest => value.chars :: itemChars rest

def memberChars : List (String × Value) -> List (List Char)
  | [] => []
  | (key, value) :: rest => (stringText key ++ ':' :: value.chars) :: memberChars rest

end

def Value.text (value : Value) : String :=
  String.ofList value.chars

end Json
end AgentFiles
