import AgentFiles.Proofs.FileName.Completion
import AgentFiles.Proofs.FileName.Detection

/-!
# Categories

The category of a name is the tag of a kind or what was declared, and declaring it in its
turn changes nothing: the extension that completes a name is that of the kind it is then
known as. A name that is known needs no extension, so no declaration counts against it.
-/

namespace AgentFiles
namespace FileName

/-!
## Extensions of known names
-/

theorem isExtension_of_lowercase {ext : List Char} (h : IsExtension (Text.lowercase ext)) :
    IsExtension ext := by
  constructor
  · intro hempty
    subst hempty
    exact h.left rfl
  · intro c hc
    refine ⟨?_, ?_, ?_⟩ <;>
      intro hmark <;>
      subst hmark <;>
      have hmem := (Text.mem_lowercase_iff (by decide) (by decide) ext).mpr hc
    · exact (h.right _ hmem).left rfl
    · exact (h.right _ hmem).right.left rfl
    · exact (h.right _ hmem).right.right rfl

/-- The extension of a kind has letters that are in lower case in ASCII only. -/
theorem extension_spec (kind : Kind) :
    exists ext, kind.extension.toList = '.' :: ext ∧ IsExtension ext ∧
      Text.FromAscii ext := by
  cases hjson : kind.holdsJson with
  | true =>
      refine ⟨"json".toList, ?_, by decide, by decide⟩
      rw [Kind.extension, hjson]
      rfl
  | false =>
      refine ⟨"md".toList, ?_, by decide, by decide⟩
      rw [Kind.extension, hjson]
      rfl

theorem extension_of_wholeName : forall entry, entry ∈ wholeNames ->
    entry.2.extension.toList <:+ entry.1.toList := by
  decide

theorem extension_of_word : forall entry, entry ∈ words -> entry.2.extension = ".md" := by
  decide

theorem extension_suffix_of_kindOf? {name : List Char} {kind : Kind}
    (h : kindOf? name = some kind) : kind.extension.toList <:+ name := by
  rcases kindOf?_cases h with ⟨entry, hentry, rfl, rfl⟩ | ⟨hmarkdown, entry, hentry, _, rfl⟩
  · exact extension_of_wholeName entry hentry
  · rw [extension_of_word entry hentry]
    exact hmarkdown

theorem extension_of_detect {name : String} {kind : Kind} (h : detect name = some kind) :
    exists stem ext, name.toList = stem ++ '.' :: ext ∧ IsExtension ext ∧
      ('.' :: ext).map Char.toLower = kind.extension.toList := by
  rcases extension_suffix_of_kindOf? h with ⟨front, hfront⟩
  rcases extension_spec kind with ⟨lower, hlower, hextension, hascii⟩
  rw [hlower] at hfront
  have hpoint : Text.lowerChar '.' = ['.'] := by
    decide
  rcases Text.split_of_lowercase hpoint (by decide) hfront.symm with
    ⟨stem, ext, hname, _, hext⟩
  refine ⟨stem, ext, hname, isExtension_of_lowercase (hext ▸ hextension), ?_⟩
  rw [List.map_cons, Text.map_toLower_of_lowercase hascii hext, hlower]
  rfl

theorem complete_of_detect {name : String} {kind : Kind} (h : detect name = some kind)
    (language : String) : complete name language = name := by
  rcases extension_of_detect h with ⟨stem, ext, hname, hext, _⟩
  exact complete_of_ends ⟨stem, ext, hname, hext⟩ language

/-!
## Extensions that were added
-/

theorem lowercase_extensionFor (language : String) :
    Text.lowercase (extensionFor language).toList = (extensionFor language).toList := by
  rcases extensionFor_cases language with h | h <;>
    rw [h] <;>
    decide

theorem not_json_of_markdown {text : List Char} (hmarkdown : ".md".toList <:+ text) :
    ¬ ".json".toList <:+ text := by
  intro hjson
  have hinside : ".md".toList <:+ ".json".toList :=
    List.suffix_of_suffix_length_le hmarkdown hjson (by decide)
  exact absurd hinside (by decide)

theorem eq_of_extensions_suffix {text : List Char} {kind : Kind} {language : String}
    (hkind : kind.extension.toList <:+ text)
    (hlanguage : (extensionFor language).toList <:+ text) :
    extensionFor language = kind.extension := by
  rw [<- extensionFor_tag kind] at hkind ⊢
  rcases extensionFor_cases language with hfirst | hfirst <;>
    rcases extensionFor_cases kind.tag with hsecond | hsecond <;>
    rw [hfirst] at hlanguage ⊢ <;>
    rw [hsecond] at hkind ⊢
  · exact absurd hlanguage (not_json_of_markdown hkind)
  · exact absurd hkind (not_json_of_markdown hlanguage)

theorem extensionFor_of_detect {name language : String} {kind : Kind}
    (h : detect (name ++ extensionFor language) = some kind) :
    extensionFor language = kind.extension := by
  have hadded : (extensionFor language).toList <:+
      Text.lowercase (name ++ extensionFor language).toList := by
    rw [String.toList_append, Text.lowercase_append, lowercase_extensionFor]
    exact List.suffix_append _ _
  exact eq_of_extensions_suffix (extension_suffix_of_kindOf? h) hadded

theorem complete_tag {name language : String} {kind : Kind}
    (h : detect (complete name language) = some kind) :
    complete name kind.tag = complete name language := by
  by_cases hname : EndsInExtension name.toList
  · rw [complete_of_ends hname, complete_of_ends hname]
  · rw [complete_of_not_ends hname] at h
    rw [complete_of_not_ends hname, complete_of_not_ends hname, extensionFor_tag,
      extensionFor_of_detect h]

/-!
## Categories of names
-/

theorem category_of_known {name language : String} {kind : Kind}
    (h : detect (complete name language) = some kind) :
    category name language = kind.tag := by
  unfold category
  rw [h]

def declared (language : String) : String :=
  if language = "" then "other" else language

theorem category_of_unknown {name language : String}
    (h : detect (complete name language) = none) :
    category name language = declared language := by
  unfold category
  rw [h, declared]

theorem declared_ne_empty (language : String) : declared language ≠ "" := by
  rw [declared]
  split
  · decide
  · assumption

theorem declared_declared (language : String) :
    declared (declared language) = declared language := by
  rw [declared, if_neg (declared_ne_empty language)]

theorem complete_declared (name language : String) :
    complete name (declared language) = complete name language := by
  have hextension : extensionFor (declared language) = extensionFor language := by
    rw [declared]
    split
    · rename_i hempty
      rw [hempty]
      decide
    · rfl
  rw [complete, complete, hextension]

theorem category_of_detect {name : String} {kind : Kind} (h : detect name = some kind)
    (language : String) : category name language = kind.tag := by
  apply category_of_known
  rw [complete_of_detect h, h]

theorem category_category (name language : String) :
    category name (category name language) = category name language := by
  cases h : detect (complete name language) with
  | some kind =>
      rw [category_of_known h]
      apply category_of_known
      rw [complete_tag h, h]
  | none =>
      have hagain : detect (complete name (declared language)) = none := by
        rw [complete_declared, h]
      rw [category_of_unknown h, category_of_unknown hagain, declared_declared]

theorem category_complete (name language : String) :
    category (complete name language) language = category name language := by
  unfold category
  rw [complete_complete]

theorem category_ne_empty (name language : String) : category name language ≠ "" := by
  cases h : detect (complete name language) with
  | some kind =>
      rw [category_of_known h]
      cases kind <;>
        decide
  | none =>
      rw [category_of_unknown h]
      exact declared_ne_empty language

/--
A category is kept when it is declared or when the name is completed, and it is not empty.
A name that is known has its own kind and extension, whatever is declared, and a completed
name that is known ends in the extension of its kind.
-/
theorem category_stable (name language : String) :
    category name (category name language) = category name language ∧
    category (complete name language) language = category name language ∧
    category name language ≠ "" ∧
    (forall kind, detect name = some kind ->
      complete name language = name ∧ category name language = kind.tag) ∧
    (forall kind, detect (complete name language) = some kind ->
      exists stem ext, (complete name language).toList = stem ++ '.' :: ext ∧
        IsExtension ext ∧ ('.' :: ext).map Char.toLower = kind.extension.toList) := by
  refine ⟨category_category name language, category_complete name language,
    category_ne_empty name language, ?_, ?_⟩
  · intro kind h
    exact ⟨complete_of_detect h language, category_of_detect h language⟩
  · intro kind h
    exact extension_of_detect h

theorem category_stable_agent :
    (detect "My-Agent.Md" = some .agent ∧
      complete "My-Agent.Md" "claude-settings" = "My-Agent.Md" ∧
      category "My-Agent.Md" "claude-settings" = "claude-agent") ∧
    (detect (complete "PLUGIN" "claude-settings") = some .plugin ∧
      exists stem ext, (complete "PLUGIN" "claude-settings").toList = stem ++ '.' :: ext ∧
        IsExtension ext ∧ ('.' :: ext).map Char.toLower = ".json".toList) := by
  have hagent : detect "My-Agent.Md" = some .agent := by
    decide
  have hplugin : detect (complete "PLUGIN" "claude-settings") = some .plugin := by
    decide
  rcases category_stable "My-Agent.Md" "claude-settings" with ⟨_, _, _, hknown, _⟩
  rcases category_stable "PLUGIN" "claude-settings" with ⟨_, _, _, _, hextension⟩
  exact ⟨⟨hagent, hknown .agent hagent⟩, hplugin, hextension .plugin hplugin⟩

end FileName
end AgentFiles
