import AgentFiles.Json.Untyped
import AgentFiles.Verdict

/-!
# Checks of JSON files

A text that is no JSON value, or is null, has a single error. Any other value without members is
like an object without any, and a member that is not filled in is like none at all.
-/

namespace AgentFiles
namespace Check

open Json (Value)

def invalidJson : String := "Invalid JSON format"

/-- The member of a value, if there is one and it is filled in. -/
def setMember? (key : String) (value : Value) : Option Value :=
  (value.member? key).filter Value.isSet

def hasMember (key : String) (value : Value) : Bool :=
  (setMember? key value).isSome

/-- An error if a member is filled in with anything but what `fits`. -/
def shape (key : String) (fits : Value -> Bool) (message : String) (value : Value) : Verdict :=
  .errorIf (((setMember? key value).map fun found => !fits found).getD false) message

def each {α : Type} (check : α -> Verdict) : List α -> Verdict
  | [] => .empty
  | item :: rest => check item ++ each check rest

def whole (check : Value -> Verdict) (content : String) : Verdict :=
  match Value.ofText content with
  | .error _ => .failure invalidJson
  | .ok .null => .failure invalidJson
  | .ok value => check value

/-!
## Settings
-/

def permissions (value : Value) : Verdict :=
  each
    (fun key => shape key Value.isArray s!"permissions.{key} must be an array" value)
    ["allow", "deny"]

/-- The shapes of settings. An array passes as the environment. -/
def settingsValue (value : Value) : Verdict :=
  shape "model" Value.isString "Model must be a string" value ++
    ((setMember? "permissions" value).map permissions).getD .empty ++
      shape "env" (fun env => env.isObject || env.isArray) "env must be an object" value

def settings (content : String) : Verdict :=
  whole settingsValue content

/-!
## Plugins
-/

def pluginValue (value : Value) : Verdict :=
  each (fun key => .errorIf (!hasMember key value) s!"Plugin {key} is required")
      ["name", "version", "description"] ++
    each (fun key => shape key Value.isArray s!"{key} must be an array" value)
      ["commands", "agents", "skills"]

def plugin (content : String) : Verdict :=
  whole pluginValue content

/-!
## Marketplaces
-/

def listing (index : Nat) (value : Value) : Verdict :=
  .errorIf (!hasMember "name" value) s!"Plugin at index {index} is missing name" ++
    .errorIf (!hasMember "source" value) s!"Plugin at index {index} is missing source" ++
      .warningIf (!hasMember "description" value)
        s!"Plugin at index {index} is missing description"

/-- The plugins from an index on. Null is no plugin, and nothing after it is looked at. -/
def listings (index : Nat) : List Value -> Verdict
  | [] => .empty
  | .null :: _ => .failure invalidJson
  | value :: rest => listing index value ++ listings (index + 1) rest

def listingsMember (value : Value) : Verdict :=
  match value.member? "plugins" with
  | some (.array items) => listings 0 items
  | _ => .failure "Marketplace plugins array is required"

def ownerHasName (value : Value) : Bool :=
  ((value.member? "owner").map (hasMember "name")).getD false

def marketplaceValue (value : Value) : Verdict :=
  .errorIf (!hasMember "name" value) "Marketplace name is required" ++
    .errorIf (!ownerHasName value) "Marketplace owner name is required" ++
      listingsMember value

def marketplace (content : String) : Verdict :=
  whole marketplaceValue content

end Check
end AgentFiles
