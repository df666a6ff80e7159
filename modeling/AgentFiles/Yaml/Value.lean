import AgentFiles.Number

/-!
# YAML values

A mapping keeps its entries in the order of the text, and no two of its keys are the same. Keys are
the same when they have the same structure; the order of entries in a mapping that is a key does not
matter.
-/

namespace AgentFiles
namespace Yaml

inductive Value where
  | null
  | bool (b : Bool)
  | number (n : Number)
  | string (s : String)
  | sequence (items : List Value)
  | mapping (entries : List (Value × Value))
  | tagged (tag : String) (value : Value)
deriving Repr

namespace Value

mutual

def same : Value -> Value -> Bool
  | .null, .null => true
  | .bool a, .bool b => a == b
  | .number a, .number b => a.same b
  | .string a, .string b => a == b
  | .sequence as, .sequence bs => sameItems as bs
  | .mapping as, .mapping bs => as.length == bs.length && sameEntries as bs
  | .tagged s a, .tagged t b => s == t && same a b
  | _, _ => false

def sameItems : List Value -> List Value -> Bool
  | [], [] => true
  | a :: as, b :: bs => same a b && sameItems as bs
  | _, _ => false

/-- Each entry of the first list has the same key and value as some entry of the second. -/
def sameEntries : List (Value × Value) -> List (Value × Value) -> Bool
  | [], _ => true
  | (k, v) :: rest, bs =>
    bs.any (fun entry => same k entry.1 && same v entry.2) && sameEntries rest bs

end

def untag : Value -> Value
  | .tagged _ value => value.untag
  | value => value

/-- The text of a string, possibly under tags. -/
def text? (value : Value) : Option String :=
  match value.untag with
  | .string s => some s
  | _ => none

/-- Null, `false`, zero, no number and the empty text do not count as filled in. -/
def isSet : Value -> Bool
  | .null => false
  | .bool b => b
  | .number (.integer i) => i != 0
  | .number (.decimal x) => !x.isZero && x != .nan
  | .string s => s != ""
  | .sequence _ => true
  | .mapping _ => true
  | .tagged _ _ => true

mutual

def hasTag : Value -> Bool
  | .sequence items => itemsHaveTag items
  | .mapping entries => entriesHaveTag entries
  | .tagged _ _ => true
  | _ => false

def itemsHaveTag : List Value -> Bool
  | [] => false
  | value :: rest => value.hasTag || itemsHaveTag rest

def entriesHaveTag : List (Value × Value) -> Bool
  | [] => false
  | (key, value) :: rest => key.hasTag || value.hasTag || entriesHaveTag rest

end

def lookup (key : String) : List (Value × Value) -> Option Value
  | [] => none
  | (.string k, value) :: rest => if k = key then some value else lookup key rest
  | _ :: rest => lookup key rest

end Value
end Yaml
end AgentFiles
