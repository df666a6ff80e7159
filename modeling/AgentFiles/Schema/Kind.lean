import AgentFiles.Json.Codec
import AgentFiles.Kind

/-!
# Kinds in JSON

A kind is written as its tag. It is also read from an object whose only member has the tag as its
key and null as its value.
-/

namespace AgentFiles
namespace Kind

open Json

def readTag (node : Node) : Except Fault Kind :=
  match node with
  | .string content _ stop => do
    let tag <- content
    match ofTag? tag with
    | some kind => return kind
    | none => throw (.here (.unknownVariant tag (all.map Kind.tag)) stop)
  | node => .error (node.mismatch "variant identifier")

/-- Reads the text of an object after its opening brace: a tag, a colon, null and the end. -/
def readMember (inside : Source) : Except Fault Kind := do
  let (key, rest) := readNode inside.fuel inside
  let kind <- readTag key
  let colon := (rest.getD inside).skipBlanks
  if !colon.startsWith ':' then
    throw (colon.unexpected (if colon.isAtEnd then .endInObject else .expectedColon))
  match readNode colon.fuel colon.next with
  | (.null _ _, some rest) =>
    let rest := rest.skipBlanks
    if rest.startsWith '\x7d' then return kind
    else throw (rest.fault (if rest.isAtEnd then .endInObject else .expectedValue))
  | (node, _) => throw (node.mismatch "unit")

def codec : Codec Kind where
  read depth node :=
    match node with
    | .string .. => readTag node
    | .object start inside _ => do
      let _ <- descend depth start
      readMember inside
    | .null start _ => .error (.here .expectedValue (start + 1))
    | .bool _ start _ => .error (.here .expectedValue (start + 1))
    | .number _ start _ => .error (.here .expectedValue (start + 1))
    | .array start _ => .error (.here .expectedValue (start + 1))
    | .broken start first fault _ =>
      match first with
      | none => .error fault
      | some c => .error (if c == '\x22' then fault else .here .expectedValue (start + 1))
  write kind := .string kind.tag

end Kind
end AgentFiles
