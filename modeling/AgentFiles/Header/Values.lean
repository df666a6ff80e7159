import AgentFiles.Header.Schema

/-!
# Headers from values

The entries of a mapping become a header if their keys are texts and the declared ones hold what the
schema says. Tags on keys and texts do not count; anywhere else they are faults. The faults have no
place.
-/

namespace AgentFiles
namespace Header

open Yaml (Value Cause)

def textOf (expected : String) (value : Value) : Except Cause String :=
  match value.text? with
  | some s => .ok s
  | none => .error (.wrongType value.found expected)

def untagged (value : Value) : Except Cause Value :=
  if value.hasTag then .error .tagNotAllowed else .ok value

def partOf (entry : Entry) (value : Value) : Except Cause Part := do
  if entry.listsTools then
    match ToolList.ofYaml? (<- untagged value) with
    | some list => return .tools list
    | none => throw (.noVariant ToolList.typeName)
  else return .text (<- textOf "a string" value)

/-- What an entry holds; nothing if it is null and may be. -/
def partOf? (entry : Entry) (value : Value) : Except Cause (Option Part) :=
  match value with
  | .null => if entry.required then (partOf entry value).map some else .ok none
  | value => (partOf entry value).map some

def addValue (schema : Schema) (draft : Draft) (key value : Value) : Except Cause Draft := do
  let key <- textOf "field identifier" key
  match schema.find? key with
  | some entry =>
    if draft.isGiven key then throw (.duplicateField key)
    return draft.declare key (<- partOf? entry value)
  | none => return draft.keep key (<- untagged value)

def addValues (schema : Schema) (draft : Draft) : List (Value × Value) -> Except Cause Draft
  | [] => .ok draft
  | (key, value) :: rest => do
    let draft <- addValue schema draft key value
    addValues schema draft rest

def ofEntries (schema : Schema) (entries : List (Value × Value)) : Except Cause Header := do
  let draft <- addValues schema {} entries
  draft.complete schema

end Header
end AgentFiles
