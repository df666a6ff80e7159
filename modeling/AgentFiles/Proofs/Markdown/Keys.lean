import AgentFiles.Proofs.Markdown.FenceGrammar
import AgentFiles.Proofs.Yaml.Members
import AgentFiles.Proofs.Yaml.Reading
import AgentFiles.Proofs.Yaml.Texts
import Mathlib.Data.List.Pairwise

/-!
# Keys that are listed and keys that are found

The keys of a header are listed by their texts, whatever tags they are under, and looked
up as what they are. A key that is found is listed. A text under a tag is listed and not
found, or it is listed twice, next to the same text without a tag. So both views agree
exactly on the headers without a text under a tag as a key.
-/

namespace AgentFiles
namespace Markdown

open Yaml (Value)

variable {key : String} {entries : List (Value × Value)}

/-!
## Finding and listing
-/

theorem containsKey_iff :
    containsKey key entries = true <-> exists value, (.string key, value) ∈ entries := by
  simp only [containsKey, List.any_eq_true, Value.same_string_iff]
  constructor
  · rintro ⟨⟨k, value⟩, hmem, rfl⟩
    exact ⟨value, hmem⟩
  · rintro ⟨value, hmem⟩
    exact ⟨_, hmem, rfl⟩

theorem containsKey_iff_exists_lookup :
    containsKey key entries = true <-> exists value, Value.lookup key entries = some value := by
  rw [containsKey_iff, Value.exists_lookup_iff]

theorem mem_textKeys_iff :
    key ∈ textKeys entries <-> exists entry, entry ∈ entries ∧ entry.1.IsText key := by
  simp only [textKeys, List.mem_filterMap, Value.text?_eq_some_iff]

theorem mem_textKeys_iff_containsKey_or :
    key ∈ textKeys entries <->
      containsKey key entries = true ∨
        exists entry, entry ∈ entries ∧ entry.1.isTagged = true ∧ entry.1.IsText key := by
  rw [mem_textKeys_iff, containsKey_iff]
  constructor
  · rintro ⟨⟨k, value⟩, hmem, htext⟩
    cases htext with
    | string =>
        exact Or.inl ⟨value, hmem⟩
    | tagged htext =>
        exact Or.inr ⟨_, hmem, rfl, .tagged htext⟩
  · rintro (⟨value, hmem⟩ | ⟨entry, hmem, _, htext⟩)
    · exact ⟨_, hmem, .string⟩
    · exact ⟨entry, hmem, htext⟩

theorem nodup_textKeys_iff :
    (textKeys entries).Nodup <->
      entries.Pairwise fun entry later =>
        forall s, entry.1.IsText s -> ¬ later.1.IsText s := by
  rw [textKeys, List.Nodup, List.pairwise_filterMap]
  simp only [Value.text?_eq_some_iff]
  constructor
  · intro h
    apply h.imp
    intro entry later hne s hentry hlater
    exact hne s hentry s hlater rfl
  · intro h
    apply h.imp
    intro entry later hapart s hentry t hlater heq
    exact hapart s hentry (heq ▸ hlater)

/-!
## Where both views agree
-/

/-- None of the keys is a text under a tag. -/
def PlainTextKeys (entries : List (Value × Value)) : Prop :=
  forall entry, entry ∈ entries -> forall s, entry.1.IsText s -> entry.1 = .string s

theorem containsKey_of_mem_textKeys (hplain : PlainTextKeys entries)
    (hlisted : key ∈ textKeys entries) : containsKey key entries = true := by
  rcases mem_textKeys_iff.mp hlisted with ⟨⟨k, value⟩, hmem, htext⟩
  have hkey : k = .string key := hplain _ hmem key htext
  exact containsKey_iff.mpr ⟨value, hkey ▸ hmem⟩

theorem nodup_textKeys (hplain : PlainTextKeys entries)
    (hdistinct : entries.Pairwise fun entry later => entry.1.same later.1 = false) :
    (textKeys entries).Nodup := by
  apply nodup_textKeys_iff.mpr
  apply hdistinct.imp_of_mem
  intro entry later hentry hlater hsame s hs hs'
  rw [hplain entry hentry s hs, hplain later hlater s hs'] at hsame
  simp [Value.same] at hsame

/-- A text under a tag is found by its text only where that is listed twice. -/
theorem plainTextKeys_of_nodup (hnodup : (textKeys entries).Nodup)
    (hfound : forall key, key ∈ textKeys entries -> containsKey key entries = true) :
    PlainTextKeys entries := by
  intro entry hentry s hs
  rcases containsKey_iff.mp (hfound s (mem_textKeys_iff.mpr ⟨entry, hentry, hs⟩)) with
    ⟨value, hmem⟩
  by_contra hne
  have hother : entry ≠ (.string s, value) := by
    rintro rfl
    exact hne rfl
  have hsymm : Std.Symm fun entry later : Value × Value =>
      forall s, entry.1.IsText s -> ¬ later.1.IsText s :=
    ⟨fun _ _ hapart s hs hs' => hapart s hs' hs⟩
  exact (nodup_textKeys_iff.mp hnodup).forall hentry hmem hother s hs .string

/-!
## Headers of files
-/

theorem distinct_of_entries? {content : String}
    (hheader : (parse content).entries? = some entries) :
    entries.Pairwise fun entry later => entry.1.same later.1 = false := by
  rcases split_of_hasHeader (by rw [Document.hasHeader, hheader]; rfl) with
    ⟨block, rest, entries', _, hblock, hparse⟩
  rw [hparse] at hheader
  cases hheader
  have hrepeated := (Value.ofText_eq_ok_iff.mp (ofText_of_blockOf hblock)).right
  rw [Value.repeatedKey?] at hrepeated
  exact (Value.distinct_of_repeatedInEntries? hrepeated).right

/--
A text is one of the keys of a header exactly if it finds a value, and it is listed if it is
a key or stands there under a tag. Everything that is listed is found, and nothing is listed
twice, exactly if no key is a text under a tag. There are never more keys listed than
entries, and the text that a key finds is the text of its value, possibly under tags.
-/
theorem listing_agrees_with_lookups {content : String}
    (hheader : (parse content).entries? = some entries) :
    (forall key, containsKey key entries = true <->
      exists value, Value.lookup key entries = some value) ∧
    (forall key, key ∈ textKeys entries <->
      containsKey key entries = true ∨
        exists entry, entry ∈ entries ∧ entry.1.isTagged = true ∧ entry.1.IsText key) ∧
    (((forall key, key ∈ textKeys entries -> containsKey key entries = true) ∧
        (textKeys entries).Nodup) <-> PlainTextKeys entries) ∧
    (textKeys entries).length ≤ entries.length ∧
    (forall key s, lookupText key entries = some s <->
      exists value, Value.lookup key entries = some value ∧ value.IsText s) := by
  refine ⟨fun key => containsKey_iff_exists_lookup,
    fun key => mem_textKeys_iff_containsKey_or, ?_, ?_, ?_⟩
  · constructor
    · rintro ⟨hfound, hnodup⟩
      exact plainTextKeys_of_nodup hnodup hfound
    · intro hplain
      exact ⟨fun key => containsKey_of_mem_textKeys hplain,
        nodup_textKeys hplain (distinct_of_entries? hheader)⟩
  · exact List.length_filterMap_le _ _
  · intro key s
    simp only [lookupText, Option.bind_eq_some_iff, Value.text?_eq_some_iff]

/-- A header with a text under a tag as a value and another one as a key. -/
def markedHeader : String :=
  "---\nname: !x a\n2: b\n!y model: c\n---\nB"

theorem listing_agrees_with_lookups_marked :
    exists entries, (parse markedHeader).entries? = some entries ∧
      textKeys entries = ["name", "model"] ∧ (textKeys entries).length ≤ entries.length ∧
      (exists value, Value.lookup "name" entries = some value ∧ value.IsText "a") ∧
      ¬ PlainTextKeys entries := by
  have hparsed :
      (parse markedHeader).entries?.map
          (fun entries =>
            (textKeys entries, lookupText "name" entries, containsKey "model" entries)) =
        some (["name", "model"], some "a", false) := by
    decide +kernel
  rcases Option.map_eq_some_iff.mp hparsed with ⟨entries, hheader, hviews⟩
  injection hviews with hkeys hviews
  injection hviews with hname hmodel
  rcases listing_agrees_with_lookups hheader with ⟨_, _, hagree, hlength, htext⟩
  refine ⟨entries, hheader, hkeys, hlength, (htext _ _).mp hname, ?_⟩
  intro hplain
  have hfound := (hagree.mpr hplain).left "model" (by rw [hkeys]; decide)
  rw [hmodel] at hfound
  cases hfound

theorem marked_key_tells_views_apart :
    (exists entries, (parse "---\n!x name: 1\n---\nB").entries? = some entries ∧
      "name" ∈ textKeys entries ∧ containsKey "name" entries = false ∧
      Value.lookup "name" entries = none) ∧
    exists entries, (parse "---\nname: 1\n!x name: 2\n---\nB").entries? = some entries ∧
      ¬ (textKeys entries).Nodup := by
  have hmarked :
      (parse "---\n!x name: 1\n---\nB").entries?.map
          (fun entries => (textKeys entries, containsKey "name" entries)) =
        some (["name"], false) := by
    decide +kernel
  have htwins :
      (parse "---\nname: 1\n!x name: 2\n---\nB").entries?.map textKeys =
        some ["name", "name"] := by
    decide +kernel
  constructor
  · rcases Option.map_eq_some_iff.mp hmarked with ⟨entries, hheader, hviews⟩
    injection hviews with hkeys hmissing
    refine ⟨entries, hheader, by simp [hkeys], hmissing, ?_⟩
    rw [Option.eq_none_iff_forall_ne_some]
    intro value hlookup
    have hfound := containsKey_iff_exists_lookup.mpr ⟨value, hlookup⟩
    rw [hmissing] at hfound
    cases hfound
  · rcases Option.map_eq_some_iff.mp htwins with ⟨entries, hheader, hkeys⟩
    exact ⟨entries, hheader, by rw [hkeys]; decide⟩

end Markdown
end AgentFiles
