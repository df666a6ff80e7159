import AgentFiles.Check.File
import AgentFiles.Proofs.Check.Strictness
import AgentFiles.Proofs.FileName.Detection
import AgentFiles.Proofs.Json.Agreement
import AgentFiles.Proofs.Json.Tokens
import AgentFiles.Proofs.Markdown.FenceGrammar

/-!
# Summaries and checks

A summary says of a file what its name, its header and its checks say. A file with
the name of an agent, a skill or an output style is not valid without a header, and
one with a name for JSON is not valid with one: a fence begins with more than one
minus sign, and a JSON value that begins with a minus sign goes on with a digit.
-/

namespace AgentFiles

/-!
## Kinds of files
-/

theorem Kind.holdsJson_iff {kind : Kind} :
    kind.holdsJson = true <-> kind ∈ [.settings, .plugin, .marketplace] := by
  cases kind <;>
    decide

/-!
## Minus signs in JSON
-/

namespace Json

section Minus

variable {s : Source} {rest : List Char}

def StartsWithDigit (text : List Char) : Prop :=
  exists digit behind, text = digit :: behind ∧ Text.isDigit digit = true

theorem startsWithDigit_of_someDigits {place : Nat} {digits : List Char} {s' : Source}
    (h : someDigits s place = .ok (digits, s')) : StartsWithDigit s.rest := by
  cases hrest : s.rest with
  | nil =>
      simp [someDigits, hrest] at h
  | cons c behind =>
      cases hc : Text.isDigit c with
      | true =>
          exact ⟨c, behind, rfl, hc⟩
      | false =>
          simp [someDigits, hrest, hc] at h

theorem startsWithDigit_of_readNumber {lexeme : Lexeme} {s' : Source}
    (hs : s.rest = '-' :: rest) (h : readNumber s = .ok (lexeme, s')) :
    StartsWithDigit rest := by
  rw [readNumber, Source.startsWith_of_head hs] at h
  rcases Outcome.bind_eq_ok_iff.mp h with ⟨⟨digits, behind⟩, hdigits, _⟩
  rw [<- Source.rest_next hs]
  exact startsWithDigit_of_someDigits hdigits

theorem startsWithDigit_of_readNode {fuel depth : Nat} {value : Value}
    (hs : s.rest = '-' :: rest)
    (hread : (readNode (fuel + 1) s).1.read depth = .ok value) :
    StartsWithDigit rest := by
  have hskip : s.skipBlanks = s := Source.skipBlanks_of_head hs rfl
  cases hnumber : readNumber s with
  | error faults =>
      simp [readNode, hskip, hs, hnumber, Node.read] at hread
  | ok result =>
      exact startsWithDigit_of_readNumber hs hnumber

/-- A text that begins with a minus sign is a value only if a digit follows. -/
theorem startsWithDigit_of_ofText {content : String} {value : Value}
    (hcontent : content.toList = '-' :: rest)
    (hvalue : Value.ofText content = .ok value) : StartsWithDigit rest :=
  startsWithDigit_of_readNode hcontent (read_of_load hvalue)

theorem no_value_of_fence {content : String}
    (hcontent : exists rest, content.toList = Markdown.fence ++ rest) (value : Value) :
    Value.ofText content ≠ .ok value := by
  intro hvalue
  rcases hcontent with ⟨rest, hcontent⟩
  rcases startsWithDigit_of_ofText hcontent hvalue with ⟨digit, behind, heq, hdigit⟩
  cases heq
  exact absurd hdigit (by decide)

end Minus

end Json

/-!
## Headers in JSON files
-/

namespace Markdown

theorem starts_with_fence_of_hasHeader {content : String}
    (hheader : (parse content).hasHeader = true) :
    exists rest, content.toList = fence ++ rest := by
  rcases split_of_hasHeader hheader with ⟨block, rest, entries, hsplit, _, _⟩
  rcases fenced_of_split hsplit with ⟨opening, closing, inner, _, _, _, _, hcontent⟩
  rw [hcontent, List.append_assoc]
  exact ⟨_, rfl⟩

end Markdown

namespace Check

section Headers

variable {kind : Kind} {content : String}

theorem whole_of_hasHeader (hheader : (Markdown.parse content).hasHeader = true)
    (check : Json.Value -> Verdict) : whole check content = .failure invalidJson := by
  have hnone :=
    Json.no_value_of_fence (Markdown.starts_with_fence_of_hasHeader hheader)
  rw [whole]
  cases hvalue : Json.Value.ofText content with
  | error fault =>
      rfl
  | ok value =>
      exact absurd hvalue (hnone value)

theorem contentOf_of_hasHeader (hkind : kind.holdsJson = true) (limits : Limits)
    (hheader : (Markdown.parse content).hasHeader = true) :
    contentOf limits kind content = .failure invalidJson := by
  cases kind with
  | settings | plugin | marketplace =>
      exact whole_of_hasHeader hheader _
  | memory | command | agent | skill | hook | outputStyle =>
      cases hkind

theorem no_header_of_valid (hkind : kind.holdsJson = true) {limits : Limits}
    (hvalid : (contentOf limits kind content).isValid = true) :
    (Markdown.parse content).hasHeader = false := by
  cases hheader : (Markdown.parse content).hasHeader with
  | false =>
      rfl
  | true =>
      rw [contentOf_of_hasHeader hkind limits hheader] at hvalid
      cases hvalid

theorem hasHeader_of_valid (hkind : kind ∈ [.agent, .skill, .outputStyle])
    {limits : Limits} (hvalid : (contentOf limits kind content).isValid = true) :
    (Markdown.parse content).hasHeader = true := by
  cases kind with
  | agent =>
      exact (hasHeader_of_unmet ((agent_isValid_iff limits content).mp hvalid)).1
  | skill =>
      exact (hasHeader_of_unmet ((skill_isValid_iff limits content).mp hvalid)).1
  | outputStyle =>
      exact (hasHeader_of_unmet ((outputStyle_isValid_iff limits content).mp hvalid)).1
  | memory | command | hook | settings | plugin | marketplace =>
      exact absurd hkind (by decide)

end Headers

/-!
## Summaries
-/

section Summaries

variable {limits : Limits} {fileName content : String}

theorem metadata?_eq_none_iff :
    metadata? limits fileName content = none <-> FileName.detect fileName = none := by
  rw [metadata?, Option.map_eq_none_iff]

theorem file_of_not_detected (h : FileName.detect fileName = none) :
    file limits fileName content = .failure unrecognized := by
  rw [file, h]

theorem file_of_detected {kind : Kind} (h : FileName.detect fileName = some kind) :
    file limits fileName content = contentOf limits kind content := by
  rw [file, h]

end Summaries

/--
There is a summary exactly if the name is recognized, and it agrees with the kind of
the name, the header and the verdict. A valid file has a header if it is to have an
identity, and none if it is to hold JSON.
-/
theorem metadata_agrees_with_checks (limits : Limits) (fileName content : String) :
    (metadata? limits fileName content = none <-> FileName.detect fileName = none) ∧
    (FileName.detect fileName = none ->
      file limits fileName content = ⟨[unrecognized], []⟩) ∧
    (forall summary, metadata? limits fileName content = some summary ->
      FileName.detect fileName = some summary.kind ∧ summary.kind ≠ .command ∧
        summary.fileName = fileName ∧
        summary.frontmatterValid = (file limits fileName content).isValid ∧
        summary.hasFrontmatter = (Markdown.parse content).hasHeader ∧
        (summary.kind ∈ [.agent, .skill, .outputStyle] ->
          summary.frontmatterValid = true -> summary.hasFrontmatter = true) ∧
        (summary.kind ∈ [.settings, .plugin, .marketplace] ->
          summary.frontmatterValid = true -> summary.hasFrontmatter = false)) := by
  refine ⟨metadata?_eq_none_iff, file_of_not_detected, ?_⟩
  intro summary hsummary
  rcases Option.map_eq_some_iff.mp hsummary with ⟨kind, hdetected, rfl⟩
  refine ⟨hdetected, FileName.ne_command_of_detect hdetected, rfl, ?_, rfl,
    fun hkind hvalid => hasHeader_of_valid hkind hvalid, ?_⟩
  · rw [file_of_detected hdetected]
  · intro hkind hvalid
    exact no_header_of_valid (Kind.holdsJson_iff.mpr hkind) hvalid

theorem metadata_agrees_with_checks_named :
    file {} "notes.txt" "---\n---\n" = ⟨[unrecognized], []⟩ ∧
      (file {} "My-Agent.MD" numberedAgent).isValid = true ∧
      (Markdown.parse numberedAgent).hasHeader = true ∧
      (file {} "Settings.json" "\x7b\x7d").isValid = true ∧
      (Markdown.parse "\x7b\x7d").hasHeader = false := by
  have hagent : metadata? {} "My-Agent.MD" numberedAgent =
      some ⟨.agent, "My-Agent.MD", true, true⟩ := by
    decide +kernel
  have hsettings : metadata? {} "Settings.json" "\x7b\x7d" =
      some ⟨.settings, "Settings.json", false, true⟩ := by
    decide +kernel
  rcases metadata_agrees_with_checks {} "notes.txt" "---\n---\n" with ⟨_, hnotes, _⟩
  rcases metadata_agrees_with_checks {} "My-Agent.MD" numberedAgent with ⟨_, _, hagents⟩
  rcases hagents _ hagent with ⟨_, _, _, hvalid, hheader, hrequired, _⟩
  rcases metadata_agrees_with_checks {} "Settings.json" "\x7b\x7d" with
    ⟨_, _, hmanifests⟩
  rcases hmanifests _ hsettings with ⟨_, _, _, hvalid', hheader', _, hforbidden⟩
  exact ⟨hnotes (by decide +kernel), hvalid.symm, hheader.symm.trans (hrequired (by decide) rfl),
    hvalid'.symm, hheader'.symm.trans (hforbidden (by decide) rfl)⟩

end Check
end AgentFiles
