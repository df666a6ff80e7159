import AgentFiles.Json.Codec

/-!
# Settings files
-/

namespace AgentFiles

open Json

structure Permissions where
  allow : Option (List String) := none
  deny : Option (List String) := none
deriving DecidableEq, Repr

def Permissions.record : Record Permissions where
  name := "Permissions"
  fields := [
    .optional "allow" (.list .text) (·.allow) (fun v p => { p with allow := v }),
    .optional "deny" (.list .text) (·.deny) (fun v p => { p with deny := v })]
  blank := {}

structure StatusLine where
  kind : Option String := none
  command : Option String := none
deriving DecidableEq, Repr

def StatusLine.record : Record StatusLine where
  name := "StatusLine"
  fields := [
    .optional "type" .text (·.kind) (fun v l => { l with kind := v }),
    .optional "command" .text (·.command) (fun v l => { l with command := v })]
  blank := {}

structure Settings where
  schema : Option String := none
  model : Option String := none
  permissions : Option Permissions := none
  /-- Hooks by the name of their event, in whatever form they are written. -/
  hooks : Option (List (String × Value)) := none
  env : Option (List (String × String)) := none
  announcements : Option (List String) := none
  statusLine : Option StatusLine := none
  extra : List (String × Value) := []
deriving Repr

namespace Settings

def record : Record Settings where
  name := "ClaudeSettings"
  fields := [
    .optional "$schema" .text (·.schema) (fun v s => { s with schema := v }),
    .optional "model" .text (·.model) (fun v s => { s with model := v }),
    .optional "permissions" Permissions.record.codec (·.permissions)
      (fun v s => { s with permissions := v }),
    .optional "hooks" (.map .untyped) (·.hooks) (fun v s => { s with hooks := v }),
    .optional "env" (.map .text) (·.env) (fun v s => { s with env := v }),
    .optional "companyAnnouncements" (.list .text) (·.announcements)
      (fun v s => { s with announcements := v }),
    .optional "statusLine" StatusLine.record.codec (·.statusLine)
      (fun v s => { s with statusLine := v })]
  blank := {}

def codec : Codec Settings :=
  record.codecWithExtra (·.extra) fun extra s => { s with extra := extra }

end Settings
end AgentFiles
