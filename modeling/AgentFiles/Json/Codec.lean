import AgentFiles.Json.Untyped

/-!
# Typed reading and writing

A codec reads a value of one type from syntax and writes it as an untyped value. Records are built
from codecs of their fields: a record accepts an object, and unless it keeps unknown members also an
array of its fields in order. A declared field may not be repeated. Unknown members are skipped, or
kept with the last value for each key.
-/

namespace AgentFiles
namespace Json

structure Codec (α : Type) where
  read : Nat -> Node -> Except Fault α
  write : α -> Value

/-- The fault of a value that has another type than expected. A container is reported where it
starts, any other value where it stops; a value that cannot be read at all keeps its own fault. -/
def Node.mismatch (node : Node) (expected : String) : Fault :=
  match node with
  | .null _ stop => .here (.wrongType .unit expected) stop
  | .bool b _ stop => .here (.wrongType (.bool b) expected) stop
  | .number lexeme _ stop =>
    match lexeme.read stop with
    | .ok n => .here (.wrongType (.number n) expected) stop
    | .error fault => fault
  | .string content _ stop =>
    match content with
    | .ok s => .here (.wrongType (.string s) expected) stop
    | .error fault => fault
  | .array start _ => .here (.wrongType .sequence expected) start
  | .object start _ _ => .here (.wrongType .mapping expected) start
  | .broken _ _ read _ => read

namespace Codec

variable {α : Type}

def readText (expected : String) : Node -> Except Fault String
  | .string content _ _ => content
  | node => .error (node.mismatch expected)

def text : Codec String where
  read _ node := readText "a string" node
  write := .string

def flag : Codec Bool where
  read _ node :=
    match node with
    | .bool b _ _ => .ok b
    | node => .error (node.mismatch "a boolean")
  write := .bool

/-- Integers within bounds, the lower one included and the upper one not. -/
def integer (expected : String) (low high : Int) : Codec Int where
  read _ node :=
    match node with
    | .number lexeme _ stop => do
      match <- lexeme.read stop with
      | .integer i =>
        if low ≤ i && i < high then return i
        else throw (.here (.wrongValue (.number (.integer i)) expected) stop)
      | .decimal x => throw (.here (.wrongType (.number (.decimal x)) expected) stop)
    | node => .error (node.mismatch expected)
  write i := .number (.integer i)

def signed64 : Codec Int :=
  integer "i64" (-(Nat.pow 2 63 : Nat)) (Nat.pow 2 63 : Nat)

def unsigned32 : Codec Int :=
  integer "u32" 0 (Nat.pow 2 32 : Nat)

def readItems (read : Node -> Except Fault α) : Items -> Except Fault (List α)
  | .closed _ => .ok []
  | .broken fault _ _ => .error fault
  | .item _ node rest => do
    let value <- read node
    return value :: (<- readItems read rest)

def list (item : Codec α) : Codec (List α) where
  read depth node :=
    match node with
    | .array start items => do
      let depth <- descend depth start
      readItems (item.read depth) items
    | node => .error (node.mismatch "a sequence")
  write values := .array (values.map item.write)

def readMembers (read : Node -> Except Fault α) : Members -> Except Fault (List (String × α))
  | .closed _ => .ok []
  | .broken fault _ => .error fault
  | .member key _ node rest => do
    let key <- key
    let value <- read node
    return (key, value) :: (<- readMembers read rest)

def map (value : Codec α) : Codec (List (String × α)) where
  read depth node :=
    match node with
    | .object start _ members => do
      let depth <- descend depth start
      return Keyed.ofList (<- readMembers (value.read depth) members)
    | node => .error (node.mismatch "a map")
  write entries := .object (entries.map fun entry => (entry.1, value.write entry.2))

def untyped : Codec Value where
  read := Node.read
  write := id

end Codec

/-!
## Records
-/

/-- A field of a record `R`: reading it gives a change to the record, and a field that is not
written leaves no trace. -/
structure Field (R : Type) where
  key : String
  required : Bool
  read : Nat -> Node -> Except Fault (R -> R)
  write : R -> Option Value

namespace Field

variable {R α : Type}

def mandatory (key : String) (codec : Codec α) (get : R -> α) (set : α -> R -> R) : Field R where
  key := key
  required := true
  read depth node := (codec.read depth node).map set
  write r := some (codec.write (get r))

/-- A field that may be missing and is always written. -/
def defaulted (key : String) (codec : Codec α) (get : R -> α) (set : α -> R -> R) : Field R where
  key := key
  required := false
  read depth node := (codec.read depth node).map set
  write r := some (codec.write (get r))

/-- A field that may be missing or null, which is the same. -/
def optional (key : String) (codec : Codec α) (get : R -> Option α) (set : Option α -> R -> R) :
    Field R where
  key := key
  required := false
  read depth node :=
    match node with
    | .null _ _ => .ok (set none)
    | node => (codec.read depth node).map fun value => set (some value)
  write r := (get r).map codec.write

end Field

/-- A record type: its name in messages, its fields in order, and a record with nothing in it. -/
structure Record (R : Type) where
  name : String
  fields : List (Field R)
  blank : R

namespace Record

variable {R : Type}

def expected (record : Record R) : String :=
  s!"struct {record.name}"

def field? (record : Record R) (key : String) : Option (Field R) :=
  record.fields.find? fun field => field.key == key

/-- The fault of an object that stops before all required fields were seen. -/
def missing? (record : Record R) (seen : List String) (stop : Nat) : Option Fault :=
  (record.fields.find? fun field => field.required && !seen.contains field.key).map fun field =>
    .here (.missingField field.key) stop

/-- Reads members into `r`. What happens to an unknown member is up to `unknown`. -/
def readMembers {ε : Type} (record : Record R) (unknown : String -> Node -> Except Fault (List ε))
    (depth : Nat) (seen : List String) (r : R) : Members -> Except Fault (R × List ε)
  | .closed stop =>
    match record.missing? seen stop with
    | some fault => .error fault
    | none => .ok (r, [])
  | .broken fault _ => .error fault
  | .member key settled node rest => do
    let key <- key
    match record.field? key with
    | some field =>
      if seen.contains key then throw (.here (.duplicateField key) settled)
      let update <- field.read depth node
      readMembers record unknown depth (key :: seen) (update r) rest
    | none =>
      let found <- unknown key node
      let (r, others) <- readMembers record unknown depth seen r rest
      return (r, found ++ others)

def readItems (record : Record R) (depth : Nat) (r : R) :
    List (Field R) -> Nat -> Items -> Except Fault R
  | [], _, .closed _ => .ok r
  | [], _, .item start _ _ => .error (.here .trailingCharacters (start + 1))
  | [], _, .broken _ _ done => .error done
  | field :: fields, index, .closed stop =>
    if field.required then
      let expected := s!"{record.expected} with {record.fields.length} elements"
      .error (.here (.wrongLength index expected) stop)
    else readItems record depth r fields (index + 1) (.closed stop)
  | _ :: _, _, .broken fault _ _ => .error fault
  | field :: fields, index, .item _ node rest => do
    let update <- field.read depth node
    readItems record depth (update r) fields (index + 1) rest

def writeMembers (record : Record R) (r : R) : List (String × Value) :=
  record.fields.filterMap fun field => (field.write r).map fun value => (field.key, value)

/-- The codec of a record that skips unknown members. -/
def codec (record : Record R) : Codec R where
  read depth node :=
    match node with
    | .array start items => do
      let depth <- descend depth start
      record.readItems depth record.blank record.fields 0 items
    | .object start _ members => do
      let depth <- descend depth start
      let skip (_ : String) (node : Node) : Except Fault (List Empty) := node.skip.map fun _ => []
      return (<- record.readMembers skip depth [] record.blank members).1
    | node => .error (node.mismatch record.expected)
  write r := .object (record.writeMembers r)

/-- The codec of a record that keeps unknown members, in the order of their keys. -/
def codecWithExtra (record : Record R) (extra : R -> List (String × Value))
    (setExtra : List (String × Value) -> R -> R) : Codec R where
  read depth node :=
    match node with
    | .object start _ members => do
      let depth <- descend depth start
      let keep (key : String) (node : Node) : Except Fault (List (String × Value)) :=
        (node.read depth).map fun value => [(key, value)]
      let (r, others) <- record.readMembers keep depth [] record.blank members
      return setExtra (Keyed.ofList others) r
    | node => .error (node.mismatch record.expected)
  write r := .object (record.writeMembers r ++ extra r)

end Record

def Codec.load {α : Type} (codec : Codec α) (text : String) : Except Fault α :=
  Json.load (codec.read fullDepth) text

end Json
end AgentFiles
