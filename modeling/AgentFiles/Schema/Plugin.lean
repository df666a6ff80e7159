import AgentFiles.Json.Codec

/-!
# Plugin manifests
-/

namespace AgentFiles

open Json

/-- Someone who wrote a plugin, or who keeps a marketplace. -/
structure Contact where
  name : String := ""
  email : Option String := none
deriving DecidableEq, Repr

namespace Contact

def record (name : String) : Record Contact where
  name := name
  fields := [
    .mandatory "name" .text (·.name) (fun v c => { c with name := v }),
    .optional "email" .text (·.email) (fun v c => { c with email := v })]
  blank := {}

end Contact

structure Plugin where
  name : String := ""
  description : String := ""
  version : String := ""
  author : Option Contact := none
  commands : Option (List String) := none
  agents : Option (List String) := none
  skills : Option (List String) := none
  hooks : Option (List String) := none
  strict : Option Bool := none
  extra : List (String × Value) := []
deriving Repr

namespace Plugin

def record : Record Plugin where
  name := "PluginManifest"
  fields := [
    .mandatory "name" .text (·.name) (fun v p => { p with name := v }),
    .mandatory "description" .text (·.description) (fun v p => { p with description := v }),
    .mandatory "version" .text (·.version) (fun v p => { p with version := v }),
    .optional "author" (Contact.record "PluginAuthor").codec (·.author)
      (fun v p => { p with author := v }),
    .optional "commands" (.list .text) (·.commands) (fun v p => { p with commands := v }),
    .optional "agents" (.list .text) (·.agents) (fun v p => { p with agents := v }),
    .optional "skills" (.list .text) (·.skills) (fun v p => { p with skills := v }),
    .optional "hooks" (.list .text) (·.hooks) (fun v p => { p with hooks := v }),
    .optional "strict" .flag (·.strict) (fun v p => { p with strict := v })]
  blank := {}

def codec : Codec Plugin :=
  record.codecWithExtra (·.extra) fun extra p => { p with extra := extra }

end Plugin
end AgentFiles
