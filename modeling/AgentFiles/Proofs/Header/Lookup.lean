import AgentFiles.Load
import AgentFiles.Proofs.Header.Entries
import AgentFiles.Proofs.Yaml.Texts

/-!
# What a header holds and what is looked up

The values of a file can be looked up by their keys, and a header can be taken
from them. Where no key and no value has a tag, a text of the header is what its
key finds among the values. A text that the header does not have is missing
among the values or null there.
-/

namespace AgentFiles

namespace Header

open Yaml (Value)

def Untagged (entries : List (Value × Value)) : Prop :=
  forall entry, entry ∈ entries ->
    entry.1.isTagged = false ∧ entry.2.isTagged = false

section Lookup

variable {schema : Schema} {entry : Entry} {key : String}

theorem addValues_part?_eq {draft draft' : Draft}
    {entries : List (Value × Value)}
    (hkeys : forall other, other ∈ entries -> other.1.isTagged = false)
    (hfind : schema.find? key = some entry)
    (hfresh : draft.part? key = none)
    (hadd : addValues schema draft entries = .ok draft') :
    (Value.lookup key entries = none ∧ draft'.part? key = none) ∨
      exists value part, Value.lookup key entries = some value ∧
        partOf? entry value = .ok part ∧ draft'.part? key = some part := by
  induction entries generalizing draft with
  | nil =>
      cases hadd
      exact Or.inl ⟨rfl, hfresh⟩
  | cons first rest ih =>
      rcases first with ⟨k, v⟩
      rcases addValues_cons_eq_ok_iff.mp hadd with ⟨next, hfirst, hrest⟩
      rcases addValue_eq_ok_iff.mp hfirst with ⟨s, hs, hadded⟩
      have hstring : k = .string s :=
        Value.eq_string_of_text? (hkeys _ List.mem_cons_self) hs
      rw [hstring, Value.lookup_string_cons]
      have hothers :
          forall other, other ∈ rest -> other.1.isTagged = false :=
        fun other hother => hkeys other (List.mem_cons_of_mem _ hother)
      by_cases hkey : s = key
      · subst hkey
        rw [if_pos rfl]
        cases hadded with
        | declared hdeclared hgiven hpart =>
            rename_i declared part
            rw [hfind] at hdeclared
            cases hdeclared
            exact Or.inr ⟨v, part, rfl, hpart,
              addValues_part?_of_some hrest (Draft.part?_declare_self hgiven)⟩
        | extra hextra htag =>
            rw [hfind] at hextra
            cases hextra
      · rw [if_neg hkey]
        apply ih hothers _ hrest
        cases hadded with
        | declared hdeclared hgiven hpart =>
            rw [Draft.part?_declare, hfresh, if_neg hkey]
            rfl
        | extra hextra htag =>
            rw [Draft.part?_keep]
            exact hfresh

/-- What a header holds under a declared key is what the key finds among the values,
and a key that finds nothing may be missing. -/
theorem part?_of_ofEntries {header : Header} {entries : List (Value × Value)}
    (hkeys : forall other, other ∈ entries -> other.1.isTagged = false)
    (hfind : schema.find? key = some entry)
    (hheader : ofEntries schema entries = .ok header) :
    (Value.lookup key entries = none ∧ header.part? key = none ∧
      entry.required = false) ∨
    exists value, Value.lookup key entries = some value ∧
      partOf? entry value = .ok (header.part? key) := by
  rcases ofEntries_eq_ok_iff.mp hheader with ⟨draft, hadd, hcomplete⟩
  rcases Draft.complete_eq_ok hcomplete with ⟨hrequired, _, _, hparts⟩
  rw [hparts key entry hfind]
  rcases addValues_part?_eq hkeys hfind rfl hadd with
    ⟨hlookup, hdraft⟩ | ⟨value, part, hlookup, hvalue, hdraft⟩
  · rw [hdraft]
    refine Or.inl ⟨hlookup, rfl, ?_⟩
    rw [<- Bool.not_eq_true]
    intro hneeded
    rcases Schema.mem_of_find? hfind with ⟨hmem, hkey⟩
    have hgiven := hrequired entry hmem hneeded
    rw [hkey, Draft.isGiven, hdraft] at hgiven
    cases hgiven
  · rw [hdraft]
    exact Or.inr ⟨value, hlookup, hvalue⟩

theorem lookup_of_ofEntries {header : Header}
    {entries : List (Value × Value)}
    (huntagged : Untagged entries)
    (hfind : schema.find? key = some entry)
    (htext : entry.listsTools = false)
    (hheader : ofEntries schema entries = .ok header) :
    (exists s, Value.lookup key entries = some (.string s) ∧
      header.text? key = some s) ∨
    (entry.required = false ∧ header.text? key = none ∧
      (Value.lookup key entries = none ∨
        Value.lookup key entries = some .null)) := by
  have hkeys : forall other, other ∈ entries -> other.1.isTagged = false :=
    fun other hother => (huntagged other hother).left
  rcases part?_of_ofEntries hkeys hfind hheader with
    ⟨hlookup, hpart, hoptional⟩ | ⟨value, hlookup, hvalue⟩
  · exact Or.inr ⟨hoptional, by simp [text?, hpart], Or.inl hlookup⟩
  · rcases partOf?_eq_ok_iff.mp hvalue with
      ⟨hoptional, rfl, hpart⟩ | ⟨_, p, hp, hpart⟩
    · exact Or.inr ⟨hoptional, by simp [text?, hpart], Or.inr hlookup⟩
    · rcases (partOf_text_iff htext).mp hp with ⟨s, hs, rfl⟩
      have htag : value.isTagged = false :=
        (huntagged _ (Value.mem_of_lookup hlookup)).right
      have hstring : value = .string s := Value.eq_string_of_text? htag hs
      rw [hstring] at hlookup
      exact Or.inl ⟨s, hlookup, by simp [text?, hpart]⟩

theorem lookup_of_required {header : Header} {entries : List (Value × Value)}
    (huntagged : Untagged entries)
    (hfind : schema.find? key = some entry)
    (htext : entry.listsTools = false) (hrequired : entry.required = true)
    (hheader : ofEntries schema entries = .ok header) :
    exists s, Value.lookup key entries = some (.string s) ∧
      header.text? key = some s := by
  rcases lookup_of_ofEntries huntagged hfind htext hheader with
    hgiven | ⟨hoptional, _⟩
  · exact hgiven
  · rw [hrequired] at hoptional
    cases hoptional

theorem text?_of_lookup {header : Header} {entries : List (Value × Value)}
    (huntagged : Untagged entries)
    (hfind : schema.find? key = some entry)
    (htext : entry.listsTools = false)
    (hheader : ofEntries schema entries = .ok header) :
    (Value.lookup key entries).bind Value.text? = header.text? key := by
  rcases lookup_of_ofEntries huntagged hfind htext hheader with
    ⟨s, hlookup, hs⟩ | ⟨_, hnone, hlookup | hlookup⟩
  · rw [hlookup, hs]
    rfl
  · rw [hlookup, hnone]
    rfl
  · rw [hlookup, hnone]
    rfl

end Lookup

theorem ofEntries_of_loadEntries {schema : Schema} {header : Header}
    {entries : List (Value × Value)}
    (h : loadEntries schema entries = .ok header) :
    ofEntries schema entries = .ok header :=
  Outcome.mapError_eq_ok_iff.mp h

end Header
end AgentFiles
