import AgentFiles.Proofs.Check.TypedHeader
import AgentFiles.Proofs.Check.Unset

/-!
# What Markdown kinds find

A kind with an identity makes demands of a file, and each demand that is not met is
an error in the wording of the kind. The other kinds demand a body only. Limits
matter to nothing but the warnings about texts of the header that are too long, and
a description that is not filled in is never too long.
-/

namespace AgentFiles
namespace Check

open Yaml (Value)

def headerText? (key content : String) : Option String :=
  (Markdown.parse content).entries?.bind (Markdown.lookupText key)

section Header

variable {content key : String} {entries : Entries}

theorem headerText?_of_no_header (h : (Markdown.parse content).entries? = none) :
    headerText? key content = none := by
  rw [headerText?, h]
  rfl

theorem headerText?_of_header (h : (Markdown.parse content).entries? = some entries) :
    headerText? key content = (Value.lookup key entries).bind Value.text? := by
  rw [headerText?, h]
  rfl

end Header

/-!
## Kinds without an identity
-/

theorem memory_eq (limits : Limits) (content : String) :
    memory limits content =
      ⟨bodyErrors "Content body is required" (Markdown.parse content).body,
        lengthWarnings "Name" limits.name (headerText? "name" content) ++
          lengthWarnings "Description" limits.description
            (headerText? "description" content) ++
          if (Markdown.parse content).hasHeader then []
          else ["No YAML frontmatter found (optional for CLAUDE.md)"]⟩ := by
  cases hentries : (Markdown.parse content).entries? with
  | none =>
      simp only [memory, hentries, body_eq, Verdict.warningIf_eq,
        headerText?_of_no_header hentries, Markdown.Document.hasHeader]
      rfl
  | some entries =>
      simp only [memory, hentries, body_eq, Verdict.mk_append_mk,
        nameLength_eq limits (headerText?_of_header hentries).symm,
        descriptionLength_eq limits (headerText?_of_header hentries).symm,
        Markdown.Document.hasHeader]
      simp

theorem command_eq (limits : Limits) (content : String) :
    command limits content =
      ⟨bodyErrors "Command content is required" (Markdown.parse content).body,
        lengthWarnings "Description" limits.description
          (headerText? "description" content)⟩ := by
  cases hentries : (Markdown.parse content).entries? with
  | none =>
      simp only [command, hentries, body_eq, headerText?_of_no_header hentries]
      rfl
  | some entries =>
      simp only [command, hentries, body_eq, Verdict.mk_append_mk,
        descriptionLength_eq limits (headerText?_of_header hentries).symm]
      simp

theorem hook_eq (content : String) :
    hook content =
      ⟨bodyErrors "Hook content is required" (Markdown.parse content).body, []⟩ :=
  body_eq _ _

theorem bodyErrors_eq_nil_iff (message : String) (document : Markdown.Document) :
    bodyErrors message document.body = [] <-> document.hasBody = true := by
  rw [bodyErrors, Markdown.Document.hasBody]
  cases Text.allBlank document.body.toList <;>
    simp

/-!
## Kinds with an identity
-/

inductive Demand where
  | header
  | name
  | naming
  | description
  | body
deriving DecidableEq, Repr

def Identity.wording (identity : Identity) : Demand -> String
  | .header => identity.missingHeader
  | .name => identity.missingName
  | .naming => identity.invalidName
  | .description => identity.missingDescription
  | .body => identity.missingBody

def identityOf? : Kind -> Option Identity
  | .agent => some .agent
  | .skill => some .skill
  | .outputStyle => some .outputStyle
  | .memory | .command | .hook | .settings | .plugin | .marketplace => none

theorem wording_injective {kind : Kind} {identity : Identity}
    (hkind : identityOf? kind = some identity)
    {demand demand' : Demand} (h : identity.wording demand = identity.wording demand') :
    demand = demand' := by
  cases kind with
  | agent | skill | outputStyle =>
      cases hkind
      revert h
      cases demand <;> cases demand' <;>
        simp [Identity.wording, Identity.agent, Identity.skill, Identity.outputStyle]
  | memory | command | hook | settings | plugin | marketplace =>
      cases hkind

def unmetByName (naming : Naming) (entries : Entries) : List Demand :=
  match filledValue? "name" entries with
  | some value => if naming.admits value.plainText then [] else [.naming]
  | none => [.name]

def unmetByDescription (entries : Entries) : List Demand :=
  if (filledValue? "description" entries).isSome then [] else [.description]

def unmetByBody (document : Markdown.Document) : List Demand :=
  if document.hasBody then [] else [.body]

/-- The demands that a file does not meet, in the order in which they are checked. -/
def unmet (naming : Naming) (document : Markdown.Document) : List Demand :=
  (match document.entries? with
    | some entries => unmetByName naming entries ++ unmetByDescription entries
    | none => [.header]) ++
  unmetByBody document

section Identities

variable (identity : Identity) (limits : Limits) (entries : Entries)

theorem name_eq_unmet :
    name identity entries =
      ⟨(unmetByName identity.naming entries).map identity.wording, []⟩ := by
  rw [name_eq_filled, unmetByName]
  cases filledValue? "name" entries with
  | none =>
      rfl
  | some value =>
      by_cases hadmits : identity.naming.admits value.plainText = true <;>
        simp [nameFinding, Verdict.errorIf_eq, hadmits, Identity.wording]

theorem lengthWarnings_of_unset {key field : String} (limit : Nat)
    (hunset : filledValue? key entries = none) :
    lengthWarnings field limit ((Value.lookup key entries).bind Value.text?) = [] := by
  rw [<- exceeds_eq field limit (Value.lookup key entries) rfl, exceeds_eq_filled, hunset]
  rfl

/-- The length of a description is only checked if it is filled in, which makes no
difference. -/
theorem description_eq_unmet :
    description identity limits entries =
      ⟨(unmetByDescription entries).map identity.wording,
        lengthWarnings "Description" limits.description
          ((Value.lookup "description" entries).bind Value.text?)⟩ := by
  rw [description, isSet_eq_filled, unmetByDescription]
  cases hfilled : filledValue? "description" entries with
  | none =>
      rw [lengthWarnings_of_unset entries limits.description hfilled]
      rfl
  | some value =>
      rw [Option.isSome_some, if_pos rfl, if_pos rfl, descriptionLength_eq limits rfl]
      rfl

theorem body_eq_unmet (document : Markdown.Document) :
    body document identity.missingBody =
      ⟨(unmetByBody document).map identity.wording, []⟩ := by
  rw [body, Verdict.errorIf_eq, unmetByBody]
  cases document.hasBody <;>
    rfl

theorem identified_eq_unmet {more : Entries -> Verdict}
    (hmore : forall entries, (more entries).errors = []) (content : String) :
    identified identity more limits content =
      ⟨(unmet identity.naming (Markdown.parse content)).map identity.wording,
        lengthWarnings "Description" limits.description
            (headerText? "description" content) ++
          ((Markdown.parse content).entries?.map fun entries =>
            (more entries).warnings).getD []⟩ := by
  cases hentries : (Markdown.parse content).entries? with
  | none =>
      simp only [identified, hentries, body_eq_unmet, unmet,
        headerText?_of_no_header hentries]
      rfl
  | some entries =>
      have hfindings : more entries = ⟨[], (more entries).warnings⟩ := by
        rw [<- hmore entries]
      rw [identified, hentries]
      simp only [name_eq_unmet, description_eq_unmet, body_eq_unmet, unmet, hentries,
        headerText?_of_header hentries]
      rw [hfindings]
      simp [Verdict.mk_append_mk]

end Identities

theorem model_errors (entries : Entries) : (model entries).errors = [] := by
  rw [model_eq_filled]
  cases filledValue? "model" entries with
  | none =>
      rfl
  | some value =>
      rw [modelFinding, Verdict.warningIf_eq]

theorem model_warnings (entries : Entries) :
    (model entries).warnings = [] ∨ (model entries).warnings = [modelAdvice] := by
  rw [model_eq_filled]
  cases filledValue? "model" entries with
  | none =>
      exact Or.inl rfl
  | some value =>
      rw [modelFinding, Verdict.warningIf_eq]
      cases namesModel value with
      | true =>
          exact Or.inl rfl
      | false =>
          exact Or.inr rfl

def modelAdvices (content : String) : List String :=
  ((Markdown.parse content).entries?.map fun entries => (model entries).warnings).getD []

theorem modelAdvices_eq (content : String) :
    modelAdvices content = [] ∨ modelAdvices content = [modelAdvice] := by
  rw [modelAdvices]
  cases (Markdown.parse content).entries? with
  | none =>
      exact Or.inl rfl
  | some entries =>
      exact model_warnings entries

theorem agent_eq (limits : Limits) (content : String) :
    agent limits content =
      ⟨(unmet .underscores (Markdown.parse content)).map Identity.agent.wording,
        lengthWarnings "Description" limits.description
          (headerText? "description" content) ++ modelAdvices content⟩ :=
  identified_eq_unmet .agent limits model_errors content

theorem identified_eq_of_no_more (identity : Identity) (limits : Limits)
    (content : String) :
    identified identity (fun _ => .empty) limits content =
      ⟨(unmet identity.naming (Markdown.parse content)).map identity.wording,
        lengthWarnings "Description" limits.description
          (headerText? "description" content)⟩ := by
  rw [identified_eq_unmet identity limits fun _ => rfl]
  cases (Markdown.parse content).entries? <;>
    simp [Verdict.empty]

theorem skill_eq (limits : Limits) (content : String) :
    skill limits content =
      ⟨(unmet .hyphensOnly (Markdown.parse content)).map Identity.skill.wording,
        lengthWarnings "Description" limits.description
          (headerText? "description" content)⟩ :=
  identified_eq_of_no_more .skill limits content

theorem outputStyle_eq (limits : Limits) (content : String) :
    outputStyle limits content =
      ⟨(unmet .hyphensOnly (Markdown.parse content)).map Identity.outputStyle.wording,
        lengthWarnings "Description" limits.description
          (headerText? "description" content)⟩ :=
  identified_eq_of_no_more .outputStyle limits content

end Check
end AgentFiles
