import AgentFiles.Json.Fault
import AgentFiles.Json.Lexeme
import AgentFiles.Json.Source

/-!
# Syntax of a JSON text

A node is a value as it is written, with the places that messages need. A text is read up to the
first character that fits nowhere; there the syntax is broken, and whoever comes to the break
reports its fault. A value that is skipped is looked at less closely than one that is read: the two
may give different faults for one break, and some flaws (a surrogate without its partner, a number
beyond the doubles) spoil only a value that is read.
-/

namespace AgentFiles
namespace Json

mutual

inductive Node where
  | null (start stop : Nat)
  | bool (b : Bool) (start stop : Nat)
  | number (lexeme : Lexeme) (start stop : Nat)
  | string (content : Except Fault String) (start stop : Nat)
  | array (start : Nat) (items : Items)
  /-- `inside` is the text after the opening brace. -/
  | object (start : Nat) (inside : Source) (members : Members)
  /-- A break within a value that begins with `first`; no value begins where there is none. -/
  | broken (start : Nat) (first : Option Char) (read skip : Fault)

/-- The items of an array. A break has a third fault, for a reader that wants no further item. -/
inductive Items where
  | closed (stop : Nat)
  | broken (read skip done : Fault)
  | item (start : Nat) (node : Node) (rest : Items)

/-- The members of an object. The place `settled` of a member is where a fault about its key as such
is reported: before the character that follows the key, or behind it if that closes the object. -/
inductive Members where
  | closed (stop : Nat)
  | broken (read skip : Fault)
  | member (key : Except Fault String) (settled : Nat) (node : Node) (rest : Members)

end

def Fault.here (cause : Cause) (place : Nat) : Fault :=
  ⟨cause, some place⟩

namespace Source

/-- A fault about the next byte. -/
def unexpected (s : Source) (cause : Cause) : Fault :=
  .here cause s.upcoming

def fault (s : Source) (cause : Cause) : Fault :=
  .here cause s.offset

end Source

/-!
## Strings
-/

inductive Reading where
  | closed (content : Except Fault String) (rest : Source)
  | broken (read skip : Fault)

/-- Four hexadecimal digits. Four bytes are taken before they are looked at. -/
def hexFour (s : Source) : Except Fault (Nat × Source) :=
  if Source.width (s.rest.take 4) < 4 then
    .error (.here .endInString (s.offset + Source.width (s.rest.take 4)))
  else
    match Text.natOf? 16 (s.rest.take 4) with
    | some n => .ok (n, s.after (s.rest.take 4))
    | none => .error (.here .invalidEscape (s.offset + 4))

def shortEscape? (c : Char) : Option Char :=
  match c with
  | '\x22' => some '\x22'
  | '\\' => some '\\'
  | '/' => some '/'
  | 'b' => some '\x08'
  | 'f' => some '\x0c'
  | 'n' => some '\n'
  | 'r' => some '\r'
  | 't' => some '\t'
  | _ => none

def isHighSurrogate (n : Nat) : Bool :=
  0xD800 ≤ n && n ≤ 0xDBFF

def isLowSurrogate (n : Nat) : Bool :=
  0xDC00 ≤ n && n ≤ 0xDFFF

/-- What an escape by number stands for, given the text after its digits: a character, or a flaw. -/
def escaped (n : Nat) (s : Source) : Except Fault (Except Fault Char × Source) :=
  if isLowSurrogate n then .ok (.error (s.fault .loneSurrogate), s)
  else if !isHighSurrogate n then .ok (.ok (Char.ofNat n), s)
  else
    match s.rest with
    | '\\' :: 'u' :: _ =>
      match hexFour s.next.next with
      | .error fault => .error fault
      | .ok (low, rest) =>
        if isLowSurrogate low then
          .ok (.ok (Char.ofNat (0x10000 + (n - 0xD800) * 0x400 + (low - 0xDC00))), rest)
        else .ok (.error (rest.fault .loneSurrogate), s)
    | [] => .ok (.error (s.fault .endInString), s)
    | ['\\'] => .ok (.error (s.next.fault .endInString), s)
    | '\\' :: _ => .ok (.error (s.next.unexpected .unfinishedPair), s)
    | _ => .ok (.error (s.unexpected .unfinishedPair), s)

/-- The text of a string after its opening quote. `content` holds the characters so far, last first,
or the first flaw, which does not keep the string from being skipped. -/
def readString (fuel : Nat) (s : Source) (content : Except Fault (List Char)) : Reading :=
  let breakAt (read skip : Fault) : Reading :=
    match content with
    | .ok _ => .broken read skip
    | .error flaw => .broken flaw skip
  match fuel, s.rest with
  | 0, _ => breakAt (s.fault .endInString) (s.fault .endInString)
  | _, [] => breakAt (s.fault .endInString) (s.fault .endInString)
  | _ + 1, '\x22' :: _ => .closed (content.map fun cs => String.ofList cs.reverse) s.next
  | _ + 1, '\\' :: [] => breakAt (s.next.fault .endInString) (s.next.fault .endInString)
  | fuel + 1, '\\' :: 'u' :: _ =>
    match hexFour s.next.next with
    | .error fault => breakAt fault fault
    | .ok (n, rest) =>
      match escaped n rest with
      | .error fault => breakAt fault fault
      | .ok (.ok c, rest) => readString fuel rest (content.map (c :: ·))
      | .ok (.error flaw, rest) =>
        readString fuel rest (content.bind fun _ => .error flaw)
  | fuel + 1, '\\' :: c :: _ =>
    match shortEscape? c with
    | some c => readString fuel s.next.next (content.map (c :: ·))
    | none =>
      let fault := s.next.unexpected .invalidEscape
      breakAt fault fault
  | fuel + 1, c :: _ =>
    if c.toNat < 0x20 then breakAt (s.unexpected .controlCharacter) (s.fault .controlCharacter)
    else readString fuel s.next (content.map (c :: ·))

def stringAt (s : Source) : Reading :=
  readString (s.rest.length + 1) s.next (.ok [])

/-!
## Numbers
-/

/-- The digits that come next, at least one; otherwise the faults for reading and for skipping. -/
def someDigits (s : Source) (place : Nat) : Except (Fault × Fault) (List Char × Source) :=
  let digits := s.rest.takeWhile Text.isDigit
  if digits.isEmpty then
    let skip := Fault.here .invalidNumber place
    .error (if s.isAtEnd then s.fault .endInValue else skip, skip)
  else .ok (digits, s.after digits)

def readNumber (s : Source) : Except (Fault × Fault) (Lexeme × Source) := do
  let negative := s.startsWith '-'
  let s := if negative then s.next else s
  let (whole, s) <- someDigits s s.upcoming
  if 1 < whole.length && whole.head? == some '0' then
    let fault := Fault.here .invalidNumber (s.offset - whole.length + 2)
    throw (fault, fault)
  let (part, s) <-
    if s.startsWith '.' then someDigits s.next s.next.upcoming else pure ([], s)
  if s.startsWith 'e' || s.startsWith 'E' then
    let s := s.next
    let minus := s.startsWith '-'
    let s := if minus || s.startsWith '+' then s.next else s
    let (digits, s) <- someDigits s s.upcoming
    pure (⟨negative, whole, part, some (minus, digits)⟩, s)
  else pure (⟨negative, whole, part, none⟩, s)

/-!
## Values
-/

/-- One of the words `null`, `true` and `false`, whose first letter is known to match. -/
def readWord (s : Source) : List Char -> Except Fault Source
  | [] => .ok s
  | letter :: letters =>
    match s.rest with
    | [] => .error (s.fault .endInValue)
    | c :: _ => if c == letter then readWord s.next letters else .error (s.unexpected .expectedWord)

inductive ItemStep where
  | closed (rest : Source)
  | item (s : Source)
  | broken (read skip done : Fault)

/-- The step to the next item; `first` says that none came before. -/
def itemStep (first : Bool) (s : Source) : ItemStep :=
  let s := s.skipBlanks
  match s.rest with
  | [] => .broken (s.fault .endInList) (s.fault .endInList) (s.fault .endInList)
  | c :: _ =>
    if c == ']' then .closed s.next
    else if first then .item s
    else if c == ',' then
      let s := s.next.skipBlanks
      if s.isAtEnd then
        .broken (s.fault .endInValue) (s.fault .endInValue) (s.fault .trailingCharacters)
      else if s.startsWith ']' then
        .broken (s.unexpected .trailingComma) (s.unexpected .expectedValue)
          (s.unexpected .trailingComma)
      else .item s
    else
      .broken (s.unexpected .expectedListCommaOrEnd) (s.unexpected .expectedListCommaOrEnd)
        (s.unexpected .trailingCharacters)

/-- What comes next in an object: a member up to its colon, or a key without one. -/
inductive MemberStep where
  | closed (rest : Source)
  | member (key : Except Fault String) (settled : Nat) (rest : Source)
  | bare (key : Except Fault String) (settled : Nat) (fault : Fault)
  | broken (read skip : Fault)

def keyStep (s : Source) : MemberStep :=
  match stringAt s with
  | .broken read skip => .broken read skip
  | .closed key rest =>
    let rest := rest.skipBlanks
    let settled := if rest.startsWith '\x7d' then rest.upcoming else rest.offset
    if rest.startsWith ':' then .member key settled rest.next
    else .bare key settled
      (rest.unexpected (if rest.isAtEnd then .endInObject else .expectedColon))

def memberStep (first : Bool) (s : Source) : MemberStep :=
  let s := s.skipBlanks
  match s.rest with
  | [] => .broken (s.fault .endInObject) (s.fault .endInObject)
  | c :: _ =>
    if c == '\x7d' then .closed s.next
    else if first then
      if c == '\x22' then keyStep s
      else .broken (s.unexpected .keyNotString) (s.unexpected .keyNotString)
    else if c == ',' then
      let s := s.next.skipBlanks
      if s.isAtEnd then .broken (s.fault .endInValue) (s.fault .endInObject)
      else if s.startsWith '\x22' then keyStep s
      else if s.startsWith '\x7d' then
        .broken (s.unexpected .trailingComma) (s.unexpected .keyNotString)
      else .broken (s.unexpected .keyNotString) (s.unexpected .keyNotString)
    else
      .broken (s.unexpected .expectedObjectCommaOrEnd) (s.unexpected .expectedObjectCommaOrEnd)

mutual

/-- The value that comes next, and the text after it unless the syntax is broken. -/
def readNode (fuel : Nat) (s : Source) : Node × Option Source :=
  let s := s.skipBlanks
  let first := s.rest.head?
  let start := s.offset
  let broken (read skip : Fault) : Node × Option Source := (.broken start first read skip, none)
  let word (letters : List Char) (node : Nat -> Node) : Node × Option Source :=
    match readWord s letters with
    | .ok rest => (node rest.offset, some rest)
    | .error fault => broken fault fault
  match fuel with
  | 0 => broken (s.fault .endInValue) (s.fault .endInValue)
  | fuel + 1 =>
    match first with
    | none => broken (s.fault .endInValue) (s.fault .endInValue)
    | some c =>
      if c == 'n' then word ['n', 'u', 'l', 'l'] (.null start)
      else if c == 't' then word ['t', 'r', 'u', 'e'] (.bool true start)
      else if c == 'f' then word ['f', 'a', 'l', 's', 'e'] (.bool false start)
      else if c == '-' || Text.isDigit c then
        match readNumber s with
        | .ok (lexeme, rest) => (.number lexeme start rest.offset, some rest)
        | .error (read, skip) => broken read skip
      else if c == '\x22' then
        match stringAt s with
        | .closed content rest => (.string content start rest.offset, some rest)
        | .broken read skip => broken read skip
      else if c == '[' then
        let (items, rest) := readItems fuel true s.next
        (.array start items, rest)
      else if c == '\x7b' then
        let (members, rest) := readMembers fuel true s.next
        (.object start s.next members, rest)
      else broken (s.unexpected .expectedValue) (s.unexpected .expectedValue)

def readItems (fuel : Nat) (first : Bool) (s : Source) : Items × Option Source :=
  let ended := s.fault .endInList
  match fuel with
  | 0 => (.broken ended ended ended, none)
  | fuel + 1 =>
    match itemStep first s with
    | .closed rest => (.closed rest.offset, some rest)
    | .broken read skip done => (.broken read skip done, none)
    | .item s =>
      match readNode fuel s with
      | (node, none) => (.item s.offset node (.broken ended ended ended), none)
      | (node, some rest) =>
        let (items, rest) := readItems fuel false rest
        (.item s.offset node items, rest)

def readMembers (fuel : Nat) (first : Bool) (s : Source) : Members × Option Source :=
  let ended := s.fault .endInObject
  match fuel with
  | 0 => (.broken ended ended, none)
  | fuel + 1 =>
    match memberStep first s with
    | .closed rest => (.closed rest.offset, some rest)
    | .broken read skip => (.broken read skip, none)
    | .bare key settled fault =>
      (.member key settled (.broken settled none fault fault) (.broken fault fault), none)
    | .member key settled rest =>
      match readNode fuel rest with
      | (node, none) => (.member key settled node (.broken ended ended), none)
      | (node, some rest) =>
        let (members, rest) := readMembers fuel false rest
        (.member key settled node members, rest)

end

/-- Enough fuel for a text: no step goes deeper than twice its length. -/
def Source.fuel (s : Source) : Nat :=
  2 * s.rest.length + 2

def Node.ofText (text : List Char) : Node × Option Source :=
  readNode (Source.start text).fuel (Source.start text)

end Json
end AgentFiles
