import AgentFiles.Proofs.Check.Findings
import AgentFiles.Proofs.Naming

/-!
# How strict the kinds are

Skills and output styles make the same demands, in different words. Agents may have
underscores in their names and are otherwise as strict as skills. Whatever is valid
as an agent has a header and is valid as any kind without an identity, since these
demand nothing but a body.
-/

namespace AgentFiles
namespace Check

open Yaml (Value)

/-!
## Demands
-/

section Demands

variable {naming : Naming} {document : Markdown.Document} {content : String}

theorem unmetByName_eq_nil_iff (entries : Entries) :
    unmetByName naming entries = [] <->
      exists value, filledValue? "name" entries = some value ∧
        naming.admits value.plainText = true := by
  rw [unmetByName]
  cases filledValue? "name" entries with
  | none =>
      simp
  | some value =>
      by_cases hadmits : naming.admits value.plainText = true <;>
        simp [hadmits]

theorem unmet_eq_nil_iff :
    unmet naming document = [] <->
      exists entries value, document.entries? = some entries ∧
        filledValue? "name" entries = some value ∧
        naming.admits value.plainText = true ∧
        (filledValue? "description" entries).isSome = true ∧
        document.hasBody = true := by
  rw [unmet]
  cases document.entries? with
  | none =>
      simp
  | some entries =>
      simp only [List.append_eq_nil_iff, unmetByName_eq_nil_iff, unmetByDescription,
        unmetByBody, ite_eq_left_iff, reduceCtorEq, imp_false, Bool.not_eq_true,
        Bool.not_eq_false, Option.some.injEq]
      constructor
      · rintro ⟨⟨⟨value, hvalue, hadmits⟩, hdescription⟩, hbody⟩
        exact ⟨entries, value, rfl, hvalue, hadmits, hdescription, hbody⟩
      · rintro ⟨_, value, rfl, hvalue, hadmits, hdescription, hbody⟩
        exact ⟨⟨⟨value, hvalue, hadmits⟩, hdescription⟩, hbody⟩

theorem lookup_of_filledValue? {key : String} {entries : Entries} {value : Value}
    (h : filledValue? key entries = some value) : Value.lookup key entries = some value :=
  (Option.filter_eq_some_iff.mp h).1

theorem unmet_hyphensOnly_eq_nil_iff :
    unmet .hyphensOnly document = [] <->
      unmet .underscores document = [] ∧
        forall entries value, document.entries? = some entries ->
          Value.lookup "name" entries = some value -> '_' ∉ value.plainText := by
  simp only [unmet_eq_nil_iff, Naming.admits_hyphensOnly_iff]
  constructor
  · rintro ⟨entries, value, hentries, hname, ⟨hadmits, hnone⟩, hrest⟩
    refine ⟨⟨entries, value, hentries, hname, hadmits, hrest⟩, ?_⟩
    intro entries' value' hentries' hname'
    rw [hentries] at hentries'
    cases hentries'
    rw [lookup_of_filledValue? hname] at hname'
    cases hname'
    exact hnone
  · rintro ⟨⟨entries, value, hentries, hname, hadmits, hrest⟩, hnone⟩
    exact ⟨entries, value, hentries, hname,
      ⟨hadmits, hnone entries value hentries (lookup_of_filledValue? hname)⟩, hrest⟩

theorem hasHeader_of_unmet (h : unmet naming document = []) :
    document.hasHeader = true ∧ document.hasBody = true := by
  rcases unmet_eq_nil_iff.mp h with ⟨entries, _, hentries, _, _, _, hbody⟩
  exact ⟨by rw [Markdown.Document.hasHeader, hentries]; rfl, hbody⟩

end Demands

/-!
## Validity
-/

section Validity

variable (limits : Limits) (content : String)

theorem isValid_iff (v : Verdict) : v.isValid = true <-> v.errors = [] :=
  List.isEmpty_iff

theorem agent_isValid_iff :
    (agent limits content).isValid = true <->
      unmet .underscores (Markdown.parse content) = [] := by
  rw [agent_eq, isValid_iff, List.map_eq_nil_iff]

theorem skill_isValid_iff :
    (skill limits content).isValid = true <->
      unmet .hyphensOnly (Markdown.parse content) = [] := by
  rw [skill_eq, isValid_iff, List.map_eq_nil_iff]

theorem outputStyle_isValid_iff :
    (outputStyle limits content).isValid = true <->
      unmet .hyphensOnly (Markdown.parse content) = [] := by
  rw [outputStyle_eq, isValid_iff, List.map_eq_nil_iff]

theorem memory_isValid_iff :
    (memory limits content).isValid = true <->
      (Markdown.parse content).hasBody = true := by
  rw [memory_eq, isValid_iff, bodyErrors_eq_nil_iff]

theorem command_isValid_iff :
    (command limits content).isValid = true <->
      (Markdown.parse content).hasBody = true := by
  rw [command_eq, isValid_iff, bodyErrors_eq_nil_iff]

theorem hook_isValid_iff :
    (hook content).isValid = true <-> (Markdown.parse content).hasBody = true := by
  rw [hook_eq, isValid_iff, bodyErrors_eq_nil_iff]

end Validity

theorem wordings_differ (demand demand' : Demand) :
    (Identity.skill.wording demand = Identity.skill.wording demand' ->
      demand = demand') ∧
    (Identity.outputStyle.wording demand = Identity.outputStyle.wording demand' ->
      demand = demand') ∧
    Identity.skill.wording demand ≠ Identity.outputStyle.wording demand' := by
  refine ⟨wording_injective (show identityOf? .skill = some .skill from rfl),
    wording_injective (show identityOf? .outputStyle = some .outputStyle from rfl), ?_⟩
  cases demand <;> cases demand' <;>
    simp [Identity.wording, Identity.skill, Identity.outputStyle]

/--
The kinds by their strictness. Skills and output styles fail the same demands with
the same warnings; what is valid as a skill is valid as an agent, and the other way
round unless the name has an underscore; an agent gets at most the advice about its
model in addition; what is valid as an agent has a header and is valid as a memory, a
command and a hook, and these are valid exactly if there is a body.
-/
theorem strictness_of_kinds (limits : Limits) (content : String) :
    (skill limits content).warnings = (outputStyle limits content).warnings ∧
    ((skill limits content).errors =
        (unmet .hyphensOnly (Markdown.parse content)).map Identity.skill.wording ∧
      (outputStyle limits content).errors =
        (unmet .hyphensOnly (Markdown.parse content)).map
          Identity.outputStyle.wording) ∧
    (forall demand demand' : Demand,
      (Identity.skill.wording demand = Identity.skill.wording demand' ->
        demand = demand') ∧
      (Identity.outputStyle.wording demand = Identity.outputStyle.wording demand' ->
        demand = demand') ∧
      Identity.skill.wording demand ≠ Identity.outputStyle.wording demand') ∧
    ((skill limits content).isValid = true <->
      (outputStyle limits content).isValid = true) ∧
    ((skill limits content).isValid = true -> (agent limits content).isValid = true) ∧
    ((agent limits content).isValid = true ->
      (forall entries value, (Markdown.parse content).entries? = some entries ->
        Value.lookup "name" entries = some value -> '_' ∉ value.plainText) ->
      (skill limits content).isValid = true) ∧
    ((agent limits content).warnings = (skill limits content).warnings ∨
      (agent limits content).warnings =
        (skill limits content).warnings ++ [modelAdvice]) ∧
    ((agent limits content).isValid = true ->
      (Markdown.parse content).hasHeader = true ∧
        (memory limits content).isValid = true ∧
        (command limits content).isValid = true ∧ (hook content).isValid = true) ∧
    ((memory limits content).isValid = true <->
      (Markdown.parse content).hasBody = true) ∧
    ((command limits content).isValid = true <->
      (Markdown.parse content).hasBody = true) ∧
    ((hook content).isValid = true <-> (Markdown.parse content).hasBody = true) := by
  refine ⟨?_, ?_, wordings_differ, ?_, ?_, ?_, ?_, ?_, memory_isValid_iff limits content,
    command_isValid_iff limits content, hook_isValid_iff content⟩
  · rw [skill_eq, outputStyle_eq]
  · rw [skill_eq, outputStyle_eq]
    exact ⟨rfl, rfl⟩
  · rw [skill_isValid_iff, outputStyle_isValid_iff]
  · rw [skill_isValid_iff, agent_isValid_iff]
    exact fun hskill => (unmet_hyphensOnly_eq_nil_iff.mp hskill).1
  · rw [skill_isValid_iff, agent_isValid_iff]
    exact fun hagent hname => unmet_hyphensOnly_eq_nil_iff.mpr ⟨hagent, hname⟩
  · rw [agent_eq, skill_eq]
    rcases modelAdvices_eq content with hnone | hadvice
    · exact Or.inl (by rw [hnone, List.append_nil])
    · exact Or.inr (by rw [hadvice])
  · rw [agent_isValid_iff]
    intro hagent
    rcases hasHeader_of_unmet hagent with ⟨hheader, hbody⟩
    exact ⟨hheader, (memory_isValid_iff limits content).mpr hbody,
      (command_isValid_iff limits content).mpr hbody, (hook_isValid_iff content).mpr hbody⟩

/-- An agent whose name is a number, whose description is empty but under a tag, and
whose model is not known. -/
def numberedAgent : String :=
  "---\nname: -7\ndescription: !y ''\nmodel: gpt\n---\nBody"

theorem strictness_of_kinds_numbered :
    (skill {} numberedAgent).isValid = true ∧
      (agent {} numberedAgent).isValid = true ∧
      (forall entries value, (Markdown.parse numberedAgent).entries? = some entries ->
        Value.lookup "name" entries = some value -> '_' ∉ value.plainText) ∧
      (agent {} numberedAgent).warnings = [modelAdvice] ∧
      (Markdown.parse numberedAgent).hasHeader = true ∧
      (hook numberedAgent).isValid = true := by
  have hchecked :
      (agent {} numberedAgent).isValid = true ∧
        (agent {} numberedAgent).warnings = [modelAdvice] ∧
        ((Markdown.parse numberedAgent).entries?.all fun entries =>
          (Value.lookup "name" entries).all fun value =>
            !value.plainText.contains '_') = true := by
    decide +kernel
  rcases hchecked with ⟨hagent, hadvice, hname⟩
  have hnone : forall entries value,
      (Markdown.parse numberedAgent).entries? = some entries ->
        Value.lookup "name" entries = some value -> '_' ∉ value.plainText := by
    intro entries value hentries hlookup
    simpa [hentries, hlookup] using hname
  rcases strictness_of_kinds {} numberedAgent with
    ⟨_, _, _, _, hagentOfSkill, hskillOfAgent, _, hothers, _, _, _⟩
  have hskill := hskillOfAgent hagent hnone
  rcases hothers hagent with ⟨hheader, _, _, hhook⟩
  exact ⟨hskill, hagentOfSkill hskill, hnone, hadvice, hheader, hhook⟩

end Check
end AgentFiles
