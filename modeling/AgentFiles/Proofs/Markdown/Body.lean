import AgentFiles.Proofs.Markdown.FenceGrammar

/-!
# The body of a file

What follows the fences is the body of a file if there is a mapping between them.
Otherwise the whole file is its body, fences included, and then it is not blank.
-/

namespace AgentFiles
namespace Markdown

section Bodies

variable {content : String} {block rest : List Char}

theorem not_allBlank_of_split (hsplit : split content.toList = some (block, rest)) :
    Text.allBlank content.toList = false := by
  rcases fenced_of_split hsplit with ⟨_, _, _, _, _, _, _, hcontent⟩
  rw [hcontent]
  rfl

theorem parse_of_no_mapping (hsplit : split content.toList = some (block, rest))
    (hmapping : forall entries,
      Yaml.Value.ofText (String.ofList block) ≠ .ok (.mapping entries)) :
    (parse content).entries? = none ∧ (parse content).hasBody = true := by
  have hfilled := not_allBlank_of_split hsplit
  cases hblock : blockOf (String.ofList block) with
  | header entries =>
      exact absurd (ofText_of_blockOf hblock) (hmapping entries)
  | absent | stray | unreadable =>
      simp [parse, hsplit, hblock, Document.entries?, Document.hasBody, hfilled]

theorem parse_of_mapping {entries : List (Yaml.Value × Yaml.Value)}
    (hsplit : split content.toList = some (block, rest))
    (hmapping : Yaml.Value.ofText (String.ofList block) = .ok (.mapping entries)) :
    parse content = ⟨.header entries, String.ofList (Text.trim rest)⟩ :=
  parse_of_split hsplit (by simp only [blockOf, hmapping])

theorem hasBody_of_mapping {entries : List (Yaml.Value × Yaml.Value)}
    (hsplit : split content.toList = some (block, rest))
    (hmapping : Yaml.Value.ofText (String.ofList block) = .ok (.mapping entries)) :
    (parse content).hasBody = !Text.allBlank rest := by
  rw [parse_of_mapping hsplit hmapping]
  simp [Document.hasBody, Text.allBlank_trim]

theorem parse_of_no_split (hsplit : split content.toList = none) :
    parse content = ⟨.absent, content⟩ := by
  simp only [parse, hsplit]

/-- A file without a body is blank, or it has a header and is blank behind it. -/
theorem hasBody_eq_false_iff (content : String) :
    (parse content).hasBody = false <->
      Text.allBlank content.toList = true ∨
        exists block rest entries, split content.toList = some (block, rest) ∧
          Yaml.Value.ofText (String.ofList block) = .ok (.mapping entries) ∧
          Text.allBlank rest = true := by
  cases hsplit : split content.toList with
  | none =>
      rw [parse_of_no_split hsplit]
      simp [Document.hasBody]
  | some parts =>
      rcases parts with ⟨block, rest⟩
      have hfilled := not_allBlank_of_split hsplit
      by_cases hmapping : exists entries,
          Yaml.Value.ofText (String.ofList block) = .ok (.mapping entries)
      · rcases hmapping with ⟨entries, hmapping⟩
        rw [hasBody_of_mapping hsplit hmapping, Bool.not_eq_false']
        constructor
        · intro hblank
          exact Or.inr ⟨block, rest, entries, rfl, hmapping, hblank⟩
        · rintro (hblank | ⟨_, _, _, hparts, _, hblank⟩)
          · rw [hfilled] at hblank
            cases hblank
          · cases hparts
            exact hblank
      · have hnone := fun entries h => hmapping ⟨entries, h⟩
        rw [(parse_of_no_mapping hsplit hnone).right, hfilled]
        constructor
        · intro h
          cases h
        · rintro (h | ⟨_, _, entries, hparts, hentries, _⟩)
          · cases h
          · cases hparts
            exact absurd hentries (hnone entries)

end Bodies

end Markdown
end AgentFiles
