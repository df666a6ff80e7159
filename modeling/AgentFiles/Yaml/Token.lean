import AgentFiles.Yaml.Mark

/-!
# Tokens of a YAML text
-/

namespace AgentFiles
namespace Yaml

inductive Style where
  | plain
  | singleQuoted
  | doubleQuoted
  | literal
  | folded
deriving DecidableEq, Repr

abbrev Octets := List UInt8

def octets (s : List Char) : Octets :=
  s.flatMap String.utf8EncodeChar

inductive Token.Body where
  | streamEnd
  | version (major minor : Nat)
  | tagHandle (handle : List Char) (stem : Octets)
  | documentStart
  | documentEnd
  | blockSequenceStart
  | blockMappingStart
  | blockEnd
  | flowSequenceStart
  | flowSequenceEnd
  | flowMappingStart
  | flowMappingEnd
  | blockEntry
  | flowEntry
  | key
  | value
  | alias (name : List Char)
  | anchor (name : List Char)
  | tag (handle : List Char) (suffix : Octets)
  | scalar (text : List Char) (style : Style)
deriving DecidableEq, Repr

structure Token where
  body : Token.Body
  start : Mark
  stop : Mark
deriving Repr

end Yaml
end AgentFiles
