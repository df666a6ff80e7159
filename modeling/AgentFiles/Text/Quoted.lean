import AgentFiles.Text.Hidden

/-!
# Quoted texts in messages

A message quotes a text between double quotes. The quote, the backslash, tab, line feed, carriage
return and the null character have short escapes; any other hidden character is written by its
number in lower-case hexadecimal.
-/

namespace AgentFiles
namespace Text

def quotedChar (c : Char) : List Char :=
  if c == '\x22' then ['\\', '\x22']
  else if c == '\\' then ['\\', '\\']
  else if c == '\n' then ['\\', 'n']
  else if c == '\t' then ['\\', 't']
  else if c == '\r' then ['\\', 'r']
  else if c.toNat == 0 then ['\\', '0']
  else if isHidden c then ['\\', 'u', '\x7b'] ++ Nat.toDigits 16 c.toNat ++ ['\x7d']
  else [c]

def quoted (s : String) : String :=
  String.ofList ('\x22' :: (s.toList.flatMap quotedChar ++ ['\x22']))

end Text
end AgentFiles
