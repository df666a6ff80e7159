import AgentFiles.Proofs.Check.Findings

/-!
# Errors about a missing body

A Markdown file has no body if it is blank as a whole, or if it has a header and is
blank behind it. Every kind then reports one error about it, after all others. Where
the text between two fences is no mapping, the file has no header, and the fences are
part of its body: the kinds with an identity miss the header and nothing else, and
the other kinds miss nothing.
-/

namespace AgentFiles
namespace Check

def unmetByHeader (naming : Naming) : Option Entries -> List Demand
  | some entries => unmetByName naming entries ++ unmetByDescription entries
  | none => [.header]

section Errors

variable {kind : Kind} {identity : Identity} {message : String}

theorem missingBody?_of_identity (hkind : identityOf? kind = some identity) :
    missingBody? kind = some (identity.wording .body) := by
  cases kind with
  | agent | skill | outputStyle =>
      cases hkind
      rfl
  | memory | command | hook | settings | plugin | marketplace =>
      cases hkind

theorem body_not_mem_unmetByHeader (naming : Naming) (entries? : Option Entries) :
    Demand.body ∉ unmetByHeader naming entries? := by
  cases entries? with
  | none =>
      simp [unmetByHeader]
  | some entries =>
      rw [unmetByHeader, unmetByName, unmetByDescription]
      cases filledValue? "name" entries with
      | none =>
          cases filledValue? "description" entries <;>
            simp
      | some value =>
          cases naming.admits value.plainText <;>
            cases filledValue? "description" entries <;>
              simp

theorem identityFindings_errors (limits : Limits) {more : Entries -> Verdict}
    (hmore : forall entries, (more entries).errors = []) (entries? : Option Entries) :
    (identityFindings identity more limits entries?).errors =
      (unmetByHeader identity.naming entries?).map identity.wording := by
  cases entries? with
  | none =>
      rfl
  | some entries =>
      simp only [identityFindings, name_eq_unmet, description_eq_unmet, unmetByHeader,
        Verdict.errors_append, hmore, List.append_nil, List.map_append]

theorem headerFindings_errors (hkind : identityOf? kind = some identity) (limits : Limits)
    (entries? : Option Entries) :
    (headerFindings limits kind entries?).errors =
      (unmetByHeader identity.naming entries?).map identity.wording := by
  cases kind with
  | agent =>
      cases hkind
      exact identityFindings_errors limits model_errors entries?
  | skill | outputStyle =>
      cases hkind
      exact identityFindings_errors limits (fun _ => rfl) entries?
  | memory | command | hook | settings | plugin | marketplace =>
      cases hkind

theorem headerFindings_errors_of_no_identity (hkind : identityOf? kind = none)
    (limits : Limits) (entries? : Option Entries) :
    (headerFindings limits kind entries?).errors = [] := by
  cases kind with
  | memory | command =>
      cases entries? <;>
        simp only [headerFindings, nameLength, descriptionLength, Verdict.warningIf_eq,
          Verdict.mk_append_mk, List.append_nil, Verdict.empty]
  | hook | settings | plugin | marketplace =>
      rfl
  | agent | skill | outputStyle =>
      cases hkind

theorem message_not_mem_headerFindings (hmessage : missingBody? kind = some message)
    (limits : Limits) (entries? : Option Entries) :
    message ∉ (headerFindings limits kind entries?).errors := by
  cases hkind : identityOf? kind with
  | none =>
      rw [headerFindings_errors_of_no_identity hkind]
      exact List.not_mem_nil
  | some identity =>
      rw [missingBody?_of_identity hkind] at hmessage
      cases hmessage
      rw [headerFindings_errors hkind]
      intro hmem
      rcases List.mem_map.mp hmem with ⟨demand, hdemand, hwording⟩
      rw [wording_injective hkind hwording] at hdemand
      exact body_not_mem_unmetByHeader _ _ hdemand

theorem errors_eq_append (hmessage : missingBody? kind = some message) (limits : Limits)
    (content : String) :
    (contentOf limits kind content).errors =
      (headerFindings limits kind (Markdown.parse content).entries?).errors ++
        if (Markdown.parse content).hasBody then [] else [message] := by
  rw [contentOf_eq_append hmessage, Verdict.errors_append, body, Verdict.errorIf_eq]
  cases (Markdown.parse content).hasBody <;>
    rfl

end Errors

/--
The error about a missing body is reported exactly if the file is blank, or has a header
and is blank behind it. It is then the last error, and none of the others is the same.
Fences around no mapping are a body themselves.
-/
theorem body_error_last_and_once (limits : Limits) (kind : Kind) (content : String)
    (hkind : kind.holdsJson = false) :
    exists message, missingBody? kind = some message ∧
      (message ∈ (contentOf limits kind content).errors <->
        Text.allBlank content.toList = true ∨
          exists block rest entries,
            Markdown.split content.toList = some (block, rest) ∧
              Yaml.Value.ofText (String.ofList block) = .ok (.mapping entries) ∧
              Text.allBlank rest = true) ∧
      (message ∈ (contentOf limits kind content).errors ->
        exists others, (contentOf limits kind content).errors = others ++ [message] ∧
          message ∉ others) ∧
      (forall block rest, Markdown.split content.toList = some (block, rest) ->
        (forall entries,
          Yaml.Value.ofText (String.ofList block) ≠ .ok (.mapping entries)) ->
          (Markdown.parse content).hasBody = true ∧
            message ∉ (contentOf limits kind content).errors ∧
            (identityOf? kind = none -> (contentOf limits kind content).isValid = true) ∧
            (forall identity, identityOf? kind = some identity ->
              (contentOf limits kind content).errors = [identity.missingHeader])) := by
  rcases exists_missingBody hkind with ⟨message, hmessage⟩
  have herrors := errors_eq_append hmessage limits content
  have hothers := message_not_mem_headerFindings hmessage limits
    (Markdown.parse content).entries?
  refine ⟨message, hmessage, ?_, ?_, ?_⟩
  · rw [<- Markdown.hasBody_eq_false_iff, herrors]
    cases (Markdown.parse content).hasBody <;>
      simp [hothers]
  · intro hmem
    rw [herrors] at hmem ⊢
    cases hbody : (Markdown.parse content).hasBody with
    | false =>
        exact ⟨_, rfl, hothers⟩
    | true =>
        rw [hbody, if_pos rfl, List.append_nil] at hmem
        exact absurd hmem hothers
  · intro block rest hsplit hmapping
    rcases Markdown.parse_of_no_mapping hsplit hmapping with ⟨hentries, hbody⟩
    rw [hbody, if_pos rfl, List.append_nil, hentries] at herrors
    rw [hentries] at hothers
    refine ⟨hbody, ?_, ?_, ?_⟩
    · rw [herrors]
      exact hothers
    · intro hnone
      rw [Verdict.isValid, herrors, headerFindings_errors_of_no_identity hnone]
      rfl
    · intro identity hidentity
      rw [herrors, headerFindings_errors hidentity]
      rfl

/-- A skill that is blank behind its header, and one with a list between the fences. -/
theorem body_error_last_and_once_skill :
    Kind.skill.holdsJson = false ∧
      Identity.skill.missingBody ∈
        (contentOf {} .skill "---\nname: x\n---\n \u00a0\n").errors ∧
      (contentOf {} .skill "---\n- a\n---\n").errors = [Identity.skill.missingHeader] := by
  have hheader : (Markdown.parse "---\nname: x\n---\n \u00a0\n").hasHeader = true := by
    decide +kernel
  have hlist : (Markdown.parse "---\n- a\n---\n").hasHeader = false := by
    decide +kernel
  have hsplit : Markdown.split "---\n- a\n---\n".toList = some ("- a\n".toList, []) := by
    decide
  have hmapping : forall entries,
      Yaml.Value.ofText (String.ofList "- a\n".toList) ≠ .ok (.mapping entries) := by
    intro entries hentries
    rw [Markdown.parse_of_mapping hsplit hentries] at hlist
    cases hlist
  rcases Markdown.split_of_hasHeader hheader with
    ⟨block, rest, entries, hheld, hblock, _⟩
  have hrest : rest = " \u00a0\n".toList := by
    have hparts : Markdown.split "---\nname: x\n---\n \u00a0\n".toList =
        some ("name: x\n".toList, " \u00a0\n".toList) := by
      decide
    rw [hparts] at hheld
    cases hheld
    rfl
  refine ⟨rfl, ?_, ?_⟩
  · rcases body_error_last_and_once {} .skill "---\nname: x\n---\n \u00a0\n" rfl with
      ⟨message, hmessage, hiff, _⟩
    cases hmessage
    have hblank : Text.allBlank rest = true := by
      rw [hrest]
      decide
    exact hiff.mpr
      (Or.inr ⟨block, rest, entries, hheld, Markdown.ofText_of_blockOf hblock, hblank⟩)
  · rcases body_error_last_and_once {} .skill "---\n- a\n---\n" rfl with
      ⟨message, _, _, _, hfences⟩
    rcases hfences _ _ hsplit hmapping with ⟨_, _, _, herrors⟩
    exact herrors .skill rfl

end Check
end AgentFiles
