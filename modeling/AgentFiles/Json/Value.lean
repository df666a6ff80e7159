import AgentFiles.Keyed
import AgentFiles.Number

/-!
# JSON values

Members of an object are in the order of their keys and a key occurs once.
-/

namespace AgentFiles
namespace Json

inductive Value where
  | null
  | bool (b : Bool)
  | number (n : Number)
  | string (s : String)
  | array (items : List Value)
  | object (members : List (String × Value))
deriving Repr

namespace Value

def member? (key : String) : Value -> Option Value
  | .object members => Keyed.find? key members
  | _ => none

def isString : Value -> Bool
  | .string _ => true
  | _ => false

def isArray : Value -> Bool
  | .array _ => true
  | _ => false

def isObject : Value -> Bool
  | .object _ => true
  | _ => false

/-- Null, `false`, zero and the empty text do not count as filled in. -/
def isSet : Value -> Bool
  | .null => false
  | .bool b => b
  | .number n => !n.isZero
  | .string s => s != ""
  | .array _ => true
  | .object _ => true

end Value
end Json
end AgentFiles
