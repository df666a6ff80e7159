import AgentFiles.Text.Digits
import AgentFiles.Yaml.Cursor
import AgentFiles.Yaml.Token

/-!
# Reading anchors, tags and directives

Each reader starts at the character that announces the token and returns what the token holds.
-/

namespace AgentFiles
namespace Yaml
namespace Token

/-!
## Anchors and aliases
-/

def endsName : Option Char -> Bool
  | none => true
  | some c => endsWord (some c) || "?:,]\x7d%@\x60".toList.contains c

def readName (doing : String) (c : Cursor) : Except Problem (List Char × Cursor) :=
  let (name, rest) := c.next.takeWhile isWordChar
  if name.isEmpty || !endsName rest.head? then
    .error (rest.problem doing c.mark "did not find expected alphabetic or numeric character")
  else .ok (name, rest)

/-!
## Tags
-/

/-- An octet written as a percent sign and two hexadecimal digits. -/
def octetAt? (c : Cursor) : Option Nat :=
  match c.rest with
  | '%' :: high :: low :: _ => Text.natOf? 16 [high, low]
  | _ => none

/-- How many octets a character has whose first octet is given. -/
def leadWidth (octet : Nat) : Nat :=
  if octet < 0x80 then 1
  else if octet / 0x20 == 6 then 2
  else if octet / 0x10 == 14 then 3
  else if octet / 8 == 30 then 4
  else 0

def readTrailing (doing : String) (start : Mark) : Nat -> Cursor -> Except Problem (Octets × Cursor)
  | 0, c => .ok ([], c)
  | n + 1, c => do
    match octetAt? c with
    | none => throw (c.problem doing start "did not find URI escaped octet")
    | some octet =>
      if octet / 0x40 != 2 then
        throw (c.problem doing start "found an incorrect trailing UTF-8 octet")
      let (others, rest) <- readTrailing doing start n (c.skip 3)
      return (octet.toUInt8 :: others, rest)

def readEscapes (doing : String) (start : Mark) (c : Cursor) :
    Except Problem (Octets × Cursor) := do
  match octetAt? c with
  | none => throw (c.problem doing start "did not find URI escaped octet")
  | some octet =>
    if leadWidth octet == 0 then
      throw (c.problem doing start "found an incorrect leading UTF-8 octet")
    let (others, rest) <- readTrailing doing start (leadWidth octet - 1) (c.skip 3)
    return (octet.toUInt8 :: others, rest)

/-- Characters of a tag; commas and brackets belong to it only between angle brackets. -/
def isTagChar (verbatim : Bool) (c : Char) : Bool :=
  isWordChar c || ";/?:@&=+$.%!~*\x27()".toList.contains c || (verbatim && ",[]".toList.contains c)

def readTagChars (doing : String) (verbatim : Bool) (start : Mark) :
    Nat -> Cursor -> Except Problem (Octets × Cursor)
  | 0, c => .ok ([], c)
  | fuel + 1, c => do
    match c.head? with
    | none => return ([], c)
    | some char =>
      if !isTagChar verbatim char then return ([], c)
      let (one, rest) <-
        if char == '%' then readEscapes doing start c else pure (octets [char], c.next)
      let (others, rest) <- readTagChars doing verbatim start fuel rest
      return (one ++ others, rest)

/-- The rest of a tag after what was already read of it, `head`, which begins with a mark that does
not count. There has to be some character in all. -/
def readTagText (doing : String) (verbatim : Bool) (head : List Char) (start : Mark) (c : Cursor) :
    Except Problem (Octets × Cursor) := do
  let (text, rest) <- readTagChars doing verbatim start c.rest.length c
  if head.isEmpty && rest.index == c.index then
    throw (rest.problem doing start "did not find expected tag URI")
  return (octets (head.drop 1) ++ text, rest)

/-- A handle: an exclamation mark, and a word and a second mark if they are there. -/
def readHandle (directive : Bool) (start : Mark) (c : Cursor) :
    Except Problem (List Char × Cursor) := do
  if !c.startsWith '!' then
    let doing := if directive then "while scanning a tag directive" else "while scanning a tag"
    throw (c.problem doing start "did not find expected '!'")
  let (word, rest) := c.next.takeWhile isWordChar
  if rest.startsWith '!' then return ('!' :: (word ++ ['!']), rest.next)
  if directive && !word.isEmpty then
    throw (rest.problem "while parsing a tag directive" start "did not find expected '!'")
  return ('!' :: word, rest)

def isHandle (handle : List Char) : Bool :=
  1 < handle.length && handle.getLast? == some '!'

/-- A tag as its handle and its suffix. The handle is empty for a tag between angle brackets and for
the tag that is a single mark, and one mark for any other tag that does not name a handle. -/
def readTag (flow : Bool) (c : Cursor) : Except Problem ((List Char × Octets) × Cursor) := do
  let start := c.mark
  let doing := "while parsing a tag"
  let ((handle, suffix), rest) <-
    if c.ahead? 1 == some '<' then do
      let (suffix, rest) <- readTagText doing true [] start (c.skip 2)
      if !rest.startsWith '>' then
        throw (rest.problem "while scanning a tag" start "did not find the expected '>'")
      pure (([], suffix), rest.next)
    else do
      let (handle, rest) <- readHandle false start c
      if isHandle handle then
        let (suffix, rest) <- readTagText doing false [] start rest
        pure ((handle, suffix), rest)
      else
        let (suffix, rest) <- readTagText doing false handle start rest
        if suffix.isEmpty || suffix.head? == some 0 then pure (([], octets ['!']), rest)
        else pure ((['!'], suffix), rest)
  if (flow && rest.startsWith ',') || endsWord rest.head? then
    return ((handle, suffix), rest)
  else
    throw (rest.problem "while scanning a tag" start
      "did not find expected whitespace or line break")

/-!
## Directives
-/

/-- One of the two numbers of a version, with at most nine digits. -/
def readVersionNumber (start : Mark) (c : Cursor) : Except Problem (Nat × Cursor) := do
  let doing := "while scanning a %YAML directive"
  let (digits, rest) := c.takeWhile Text.isDigit
  if 9 < digits.length then
    throw ((c.skip 9).problem doing start "found extremely long version number")
  if digits.isEmpty then throw (c.problem doing start "did not find expected version number")
  return (Text.natOf digits, rest)

def readVersion (start : Mark) (c : Cursor) : Except Problem (Token.Body × Cursor) := do
  let (major, rest) <- readVersionNumber start (c.skipWhile isGap)
  if !rest.startsWith '.' then
    throw (rest.problem "while scanning a %YAML directive" start
      "did not find expected digit or '.' character")
  let (minor, rest) <- readVersionNumber start rest.next
  return (.version major minor, rest)

def readTagHandle (start : Mark) (c : Cursor) : Except Problem (Token.Body × Cursor) := do
  let doing := "while scanning a %TAG directive"
  let (handle, rest) <- readHandle true start (c.skipWhile isGap)
  if !(rest.head?.map isGap).getD false then
    throw (rest.problem doing start "did not find expected whitespace")
  let (stem, rest) <-
    readTagText "while parsing a %TAG directive" true [] start (rest.skipWhile isGap)
  if !endsWord rest.head? then
    throw (rest.problem doing start "did not find expected whitespace or line break")
  return (.tagHandle handle stem, rest)

/-- A directive with the rest of its line. The token ends before that rest. -/
def readDirective (c : Cursor) : Except Problem (Token × Cursor) := do
  let start := c.mark
  let doing := "while scanning a directive"
  let (name, rest) := c.next.takeWhile isWordChar
  if name.isEmpty then
    throw (rest.problem doing start "could not find expected directive name")
  if !endsWord rest.head? then
    throw (rest.problem doing start "found unexpected non-alphabetical character")
  let (body, rest) <-
    if name == "YAML".toList then readVersion start rest
    else if name == "TAG".toList then readTagHandle start rest
    else throw (rest.problem doing start "found unknown directive name")
  let stop := rest.mark
  let rest := (rest.skipWhile isGap).skipComment
  if !endsLine rest.head? then
    throw (rest.problem doing start "did not find expected comment or line break")
  return (⟨body, start, stop⟩, rest.skipBreak)

end Token
end Yaml
end AgentFiles
