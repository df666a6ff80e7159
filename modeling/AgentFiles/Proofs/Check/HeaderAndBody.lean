import AgentFiles.Check.File
import AgentFiles.Proofs.Markdown.Body
import AgentFiles.Proofs.Verdict

/-!
# Header and body

The verdict on a Markdown file is what was found in its header, if it has one,
followed by at most one error about its body. Of the body it matters only
whether it is blank. A text between fences that is no mapping makes the whole
file its body, which is then never blank, because of the fences.
-/

namespace AgentFiles
namespace Check

/-!
## The two parts of a verdict
-/

def missingBody? : Kind -> Option String
  | .memory => some "Content body is required"
  | .command => some "Command content is required"
  | .agent => some Identity.agent.missingBody
  | .skill => some Identity.skill.missingBody
  | .hook => some "Hook content is required"
  | .outputStyle => some Identity.outputStyle.missingBody
  | .settings | .plugin | .marketplace => none

theorem missingBody?_isSome (kind : Kind) :
    (missingBody? kind).isSome = !kind.holdsJson := by
  cases kind <;>
    rfl

theorem exists_missingBody {kind : Kind} (hkind : kind.holdsJson = false) :
    exists message, missingBody? kind = some message := by
  apply Option.isSome_iff_exists.mp
  rw [missingBody?_isSome, hkind]
  rfl

def identityFindings (identity : Identity) (more : Entries -> Verdict)
    (limits : Limits) : Option Entries -> Verdict
  | none => .failure identity.missingHeader
  | some entries =>
    name identity entries ++ description identity limits entries ++ more entries

def headerFindings (limits : Limits) : Kind -> Option Entries -> Verdict
  | .memory, none =>
    .warningIf true "No YAML frontmatter found (optional for CLAUDE.md)"
  | .memory, some entries =>
    nameLength limits entries ++ descriptionLength limits entries
  | .command, some entries => descriptionLength limits entries
  | .agent, entries? => identityFindings .agent model limits entries?
  | .skill, entries? => identityFindings .skill (fun _ => .empty) limits entries?
  | .outputStyle, entries? =>
    identityFindings .outputStyle (fun _ => .empty) limits entries?
  | _, _ => .empty

theorem identified_eq_append (identity : Identity) (more : Entries -> Verdict)
    (limits : Limits) (content : String) :
    identified identity more limits content =
      identityFindings identity more limits (Markdown.parse content).entries? ++
        body (Markdown.parse content) identity.missingBody := by
  cases hentries : (Markdown.parse content).entries? <;>
    simp [identified, identityFindings, hentries]

theorem contentOf_eq_append {kind : Kind} {message : String}
    (hmessage : missingBody? kind = some message) (limits : Limits)
    (content : String) :
    contentOf limits kind content =
      headerFindings limits kind (Markdown.parse content).entries? ++
        body (Markdown.parse content) message := by
  cases kind with
  | memory =>
      cases hmessage
      cases hentries : (Markdown.parse content).entries? <;>
        simp [contentOf, memory, headerFindings, hentries]
  | command =>
      cases hmessage
      cases hentries : (Markdown.parse content).entries? <;>
        simp [contentOf, command, headerFindings, hentries]
  | hook =>
      cases hmessage
      rfl
  | agent | skill | outputStyle =>
      cases hmessage
      exact identified_eq_append _ _ limits content
  | settings | plugin | marketplace =>
      cases hmessage

theorem contentOf_congr {kind : Kind} (hkind : kind.holdsJson = false) (limits : Limits)
    {content content' : String}
    (hheader : headerFindings limits kind (Markdown.parse content).entries? =
      headerFindings limits kind (Markdown.parse content').entries?)
    (hbody : (Markdown.parse content).hasBody = (Markdown.parse content').hasBody) :
    contentOf limits kind content = contentOf limits kind content' := by
  rcases exists_missingBody hkind with ⟨message, hmessage⟩
  rw [contentOf_eq_append hmessage, contentOf_eq_append hmessage, body, body, hheader, hbody]

/-!
## Files between fences
-/

section Enclosed

variable {inner : List (List Char)}

def Unfenced (inner : List (List Char)) : Prop :=
  forall line, line ∈ inner -> '\n' ∉ line ∧ ¬ Markdown.FenceLine line

def enclosed (inner : List (List Char)) (body : String) : String :=
  "---\n" ++ String.ofList (Markdown.joinLines inner) ++ "---\n" ++ body

theorem split_enclosed (hinner : Unfenced inner) (body : String) :
    Markdown.split (enclosed inner body).toList =
      some (Markdown.joinLines inner, body.toList) := by
  rw [enclosed, Markdown.toList_enclose]
  exact Markdown.split_enclose hinner body.toList

theorem parse_enclosed_of_mapping {entries : Entries}
    (hinner : Unfenced inner)
    (hmapping :
      Yaml.Value.ofText (String.ofList (Markdown.joinLines inner)) =
        .ok (.mapping entries))
    (body : String) :
    (Markdown.parse (enclosed inner body)).entries? = some entries ∧
      (Markdown.parse (enclosed inner body)).hasBody =
        !Text.allBlank body.toList := by
  have hsplit := split_enclosed hinner body
  constructor
  · rw [Markdown.parse_of_mapping hsplit hmapping]
    rfl
  · exact Markdown.hasBody_of_mapping hsplit hmapping

theorem parse_enclosed_of_no_mapping
    (hinner : Unfenced inner)
    (hmapping : forall entries,
      Yaml.Value.ofText (String.ofList (Markdown.joinLines inner)) ≠
        .ok (.mapping entries))
    (body : String) :
    (Markdown.parse (enclosed inner body)).entries? = none ∧
      (Markdown.parse (enclosed inner body)).hasBody = true :=
  Markdown.parse_of_no_mapping (split_enclosed hinner body) hmapping

end Enclosed

/-!
## The body in a verdict
-/

section Verdicts

variable {kind : Kind} {message : String} {inner : List (List Char)}

theorem append_empty (v : Verdict) : v ++ Verdict.empty = v := by
  cases v
  simp [Verdict.empty, Verdict.mk_append_mk]

theorem append_failure (v : Verdict) (message : String) :
    v ++ Verdict.failure message = v.addError message := by
  cases v
  simp [Verdict.failure, Verdict.addError, Verdict.mk_append_mk]

theorem contentOf_enclosed_of_mapping {entries : Entries}
    (hmessage : missingBody? kind = some message) (hinner : Unfenced inner)
    (hmapping :
      Yaml.Value.ofText (String.ofList (Markdown.joinLines inner)) =
        .ok (.mapping entries))
    (limits : Limits) (body : String) :
    contentOf limits kind (enclosed inner body) =
      if Text.allBlank body.toList then
        (headerFindings limits kind (some entries)).addError message
      else headerFindings limits kind (some entries) := by
  rcases parse_enclosed_of_mapping hinner hmapping body with ⟨hentries, hbody⟩
  rw [contentOf_eq_append hmessage, hentries, Check.body, hbody, Bool.not_not]
  cases Text.allBlank body.toList with
  | true =>
      exact append_failure _ message
  | false =>
      exact append_empty _

theorem contentOf_enclosed_of_no_mapping
    (hmessage : missingBody? kind = some message) (hinner : Unfenced inner)
    (hmapping : forall entries,
      Yaml.Value.ofText (String.ofList (Markdown.joinLines inner)) ≠
        .ok (.mapping entries))
    (limits : Limits) (body : String) :
    contentOf limits kind (enclosed inner body) =
      headerFindings limits kind none := by
  rcases parse_enclosed_of_no_mapping hinner hmapping body with
    ⟨hentries, hbody⟩
  rw [contentOf_eq_append hmessage, hentries, Check.body, hbody]
  exact append_empty _

end Verdicts

/--
Of what follows the fences a verdict takes into account only whether it is
blank. If there is a header between them, a blank body adds one error at the
end; otherwise it adds none.
-/
theorem body_matters_only_when_blank (limits : Limits) (kind : Kind)
    (inner : List (List Char)) (hkind : kind.holdsJson = false)
    (hinner : Unfenced inner) :
    exists message, missingBody? kind = some message ∧
      (forall first second : String,
        Text.allBlank first.toList = Text.allBlank second.toList ->
          contentOf limits kind (enclosed inner first) =
            contentOf limits kind (enclosed inner second)) ∧
      ((exists entries,
          Yaml.Value.ofText (String.ofList (Markdown.joinLines inner)) =
            .ok (.mapping entries)) ->
        forall blank filled : String, Text.allBlank blank.toList = true ->
          Text.allBlank filled.toList = false ->
            contentOf limits kind (enclosed inner blank) =
              (contentOf limits kind (enclosed inner filled)).addError
                message) ∧
      ((forall entries,
          Yaml.Value.ofText (String.ofList (Markdown.joinLines inner)) ≠
            .ok (.mapping entries)) ->
        forall first second : String,
          contentOf limits kind (enclosed inner first) =
            contentOf limits kind (enclosed inner second)) := by
  have hsome := missingBody?_isSome kind
  rw [hkind] at hsome
  rcases Option.isSome_iff_exists.mp hsome with ⟨message, hmessage⟩
  refine ⟨message, hmessage, ?_, ?_, ?_⟩
  · intro first second hblank
    by_cases hmapping : exists entries,
        Yaml.Value.ofText (String.ofList (Markdown.joinLines inner)) =
          .ok (.mapping entries)
    · rcases hmapping with ⟨entries, hmapping⟩
      rw [contentOf_enclosed_of_mapping hmessage hinner hmapping,
        contentOf_enclosed_of_mapping hmessage hinner hmapping, hblank]
    · have hnone := fun entries h => hmapping ⟨entries, h⟩
      rw [contentOf_enclosed_of_no_mapping hmessage hinner hnone,
        contentOf_enclosed_of_no_mapping hmessage hinner hnone]
  · rintro ⟨entries, hmapping⟩ blank filled hblank hfilled
    rw [contentOf_enclosed_of_mapping hmessage hinner hmapping, hblank,
      contentOf_enclosed_of_mapping hmessage hinner hmapping, hfilled]
    rfl
  · intro hmapping first second
    rw [contentOf_enclosed_of_no_mapping hmessage hinner hmapping,
      contentOf_enclosed_of_no_mapping hmessage hinner hmapping]

/-- The lines of a header that holds a line of three hyphens and a key that begins with them. -/
def hyphenLines : List (List Char) :=
  ["description: |".toList, " ---".toList, "---a: b".toList]

theorem unfenced_hyphenLines : Unfenced hyphenLines := by
  have hlines : forall line, line ∈ hyphenLines ->
      '\n' ∉ line ∧ Markdown.isFence line = false := by
    decide
  intro line hline
  rcases hlines line hline with ⟨hfeed, hfence⟩
  exact ⟨hfeed, (Markdown.isFence_eq_false_iff line).mp hfence⟩

theorem body_matters_only_when_blank_hyphens :
    Kind.command.holdsJson = false ∧ Unfenced hyphenLines ∧
      (exists entries,
        Yaml.Value.ofText (String.ofList (Markdown.joinLines hyphenLines)) =
          .ok (.mapping entries)) ∧
      contentOf {} .command (enclosed hyphenLines " \n") =
        (contentOf {} .command
          (enclosed hyphenLines "---\nname: b\n---\n")).addError
            "Command content is required" := by
  have hheader : (Markdown.parse (enclosed hyphenLines "")).hasHeader = true := by
    decide +kernel
  have hmapping : exists entries,
      Yaml.Value.ofText (String.ofList (Markdown.joinLines hyphenLines)) =
        .ok (.mapping entries) := by
    rcases Markdown.split_of_hasHeader hheader with
      ⟨block, rest, entries, hsplit, hblock, _⟩
    rw [split_enclosed unfenced_hyphenLines] at hsplit
    cases hsplit
    exact ⟨entries, Markdown.ofText_of_blockOf hblock⟩
  rcases body_matters_only_when_blank {} .command hyphenLines rfl
      unfenced_hyphenLines with ⟨message, hmessage, _, hblank, _⟩
  cases hmessage
  exact ⟨rfl, unfenced_hyphenLines, hmapping,
    hblank hmapping " \n" "---\nname: b\n---\n" (by decide) (by decide)⟩

end Check
end AgentFiles
