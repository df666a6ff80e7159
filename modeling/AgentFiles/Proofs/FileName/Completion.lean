import AgentFiles.FileName
import Mathlib.Data.List.TakeWhile

/-!
# Completed names

A name ends in an extension if behind some point there is a text, not the empty one, with
no point and no separator in it. A name that does not is completed with the extension of
its kind, which is such a text again. A name is therefore completed one time only, also if
another kind is declared the next time.
-/

namespace AgentFiles
namespace FileName

/-!
## Extensions
-/

/-- What may stand behind the last point of a name. -/
def IsExtension (ext : List Char) : Prop :=
  ext ≠ [] ∧ forall c, c ∈ ext -> c ≠ '.' ∧ c ≠ '/' ∧ c ≠ '\\'

instance (ext : List Char) : Decidable (IsExtension ext) :=
  haveI := List.decidableBAll (fun c : Char => c ≠ '.' ∧ c ≠ '/' ∧ c ≠ '\\') ext
  instDecidableAnd

def EndsInExtension (name : List Char) : Prop :=
  exists stem ext, name = stem ++ '.' :: ext ∧ IsExtension ext

theorem any_isSeparator_eq_false_iff (s : List Char) :
    s.any isSeparator = false <-> forall c, c ∈ s -> c ≠ '/' ∧ c ≠ '\\' := by
  simp [List.any_eq_false, isSeparator]

/-- The text behind the last point, which `hasExtension` looks for from the end. -/
theorem takeWhile_behind_point (stem : List Char) {ext : List Char} (hext : '.' ∉ ext) :
    (stem ++ '.' :: ext).reverse.takeWhile (· != '.') = ext.reverse := by
  have hnone : forall c, c ∈ ext.reverse -> (c != '.') = true := by
    intro c hc
    rw [bne_iff_ne]
    intro hpoint
    subst hpoint
    exact hext (List.mem_reverse.mp hc)
  rw [List.reverse_append, List.reverse_cons, List.append_assoc,
    List.takeWhile_append_of_pos hnone]
  simp

theorem hasExtension_of_isExtension (stem : List Char) {ext : List Char}
    (hext : IsExtension ext) : hasExtension (stem ++ '.' :: ext) = true := by
  have hpoint : '.' ∉ ext := fun hmem => (hext.right '.' hmem).left rfl
  have hseparators : ext.reverse.any isSeparator = false := by
    rw [List.any_reverse, any_isSeparator_eq_false_iff]
    exact fun c hc => (hext.right c hc).right
  have hshorter : ext.reverse.length < (stem ++ '.' :: ext).length := by
    simp only [List.length_reverse, List.length_append, List.length_cons]
    omega
  simp only [hasExtension, takeWhile_behind_point stem hpoint, hseparators]
  simpa [hext.left] using hshorter

theorem endsInExtension_of_hasExtension {name : List Char}
    (h : hasExtension name = true) : EndsInExtension name := by
  simp only [hasExtension, Bool.and_eq_true, Bool.not_eq_true', decide_eq_true_eq,
    List.isEmpty_eq_false_iff] at h
  rcases h with ⟨⟨hshorter, hfilled⟩, hseparators⟩
  have hparts := List.takeWhile_append_dropWhile (p := (· != '.')) (l := name.reverse)
  cases hdrop : name.reverse.dropWhile (· != '.') with
  | nil =>
      rw [hdrop, List.append_nil] at hparts
      rw [hparts, List.length_reverse] at hshorter
      exact absurd hshorter (Nat.lt_irrefl _)
  | cons point front =>
      have hpoint : point = '.' := by
        have hhead := List.head?_dropWhile_not (· != '.') name.reverse
        rw [hdrop] at hhead
        simpa using hhead
      subst hpoint
      refine ⟨front.reverse, (name.reverse.takeWhile (· != '.')).reverse, ?_, ?_, ?_⟩
      · rw [hdrop] at hparts
        have hname := congrArg List.reverse hparts
        rw [List.reverse_reverse] at hname
        exact hname.symm.trans (by simp)
      · simpa using hfilled
      · intro c hc
        rw [List.mem_reverse] at hc
        refine ⟨?_, (any_isSeparator_eq_false_iff _).mp hseparators c hc⟩
        simpa using List.mem_takeWhile_imp hc

theorem hasExtension_iff (name : List Char) :
    hasExtension name = true <-> EndsInExtension name := by
  constructor
  · exact endsInExtension_of_hasExtension
  · intro h
    rcases h with ⟨stem, ext, hname, hext⟩
    rw [hname]
    exact hasExtension_of_isExtension stem hext

instance (name : List Char) : Decidable (EndsInExtension name) :=
  decidable_of_iff _ (hasExtension_iff name)

/-!
## Extensions of kinds
-/

def jsonTags : List String :=
  [Kind.settings, Kind.plugin, Kind.marketplace].map Kind.tag

theorem extensionFor_tag (kind : Kind) : extensionFor kind.tag = kind.extension := by
  rw [extensionFor, Kind.ofTag?_tag]

theorem extensionFor_eq (language : String) :
    extensionFor language = if language ∈ jsonTags then ".json" else ".md" := by
  cases hkind : Kind.ofTag? language with
  | some kind =>
      rw [<- Kind.tag_of_ofTag? hkind, extensionFor_tag]
      cases kind <;>
        decide
  | none =>
      rw [extensionFor, hkind, if_neg]
      intro hmem
      rcases List.mem_map.mp hmem with ⟨kind, _, rfl⟩
      rw [Kind.ofTag?_tag] at hkind
      cases hkind

theorem extensionFor_cases (language : String) :
    extensionFor language = ".json" ∨ extensionFor language = ".md" := by
  rw [extensionFor_eq]
  split
  · exact Or.inl rfl
  · exact Or.inr rfl

theorem isExtension_of_extensionFor (language : String) :
    exists ext, (extensionFor language).toList = '.' :: ext ∧ IsExtension ext := by
  rcases extensionFor_cases language with h | h <;>
    rw [h]
  · exact ⟨"json".toList, rfl, by decide⟩
  · exact ⟨"md".toList, rfl, by decide⟩

/-!
## Completing a name
-/

theorem complete_of_ends {name : String} (hname : EndsInExtension name.toList)
    (language : String) : complete name language = name := by
  rw [complete, if_pos ((hasExtension_iff _).mpr hname)]

theorem complete_of_not_ends {name : String} (hname : ¬ EndsInExtension name.toList)
    (language : String) : complete name language = name ++ extensionFor language := by
  rw [complete, if_neg (fun h => hname ((hasExtension_iff _).mp h))]

theorem endsInExtension_complete (name language : String) :
    EndsInExtension (complete name language).toList := by
  by_cases hname : EndsInExtension name.toList
  · rw [complete_of_ends hname]
    exact hname
  · rcases isExtension_of_extensionFor language with ⟨ext, hlist, hext⟩
    rw [complete_of_not_ends hname, String.toList_append, hlist]
    exact ⟨name.toList, ext, rfl, hext⟩

theorem complete_complete (name language other : String) :
    complete (complete name language) other = complete name language :=
  complete_of_ends (endsInExtension_complete name language) other

theorem complete_eq_self_iff (name language : String) :
    complete name language = name <-> EndsInExtension name.toList := by
  constructor
  · intro h
    rw [<- h]
    exact endsInExtension_complete name language
  · intro hname
    exact complete_of_ends hname language

/--
A name stays as it is exactly if it ends in an extension. Any other name gets that of its
declared kind, JSON or else Markdown, and so ends in one, whatever is declared then.
-/
theorem names_completed_once (name : String) :
    (forall language, complete name language = name <-> EndsInExtension name.toList) ∧
    (forall language, ¬ EndsInExtension name.toList ->
      complete name language = name ++ if language ∈ jsonTags then ".json" else ".md") ∧
    (forall language, EndsInExtension (complete name language).toList) ∧
    (forall language other,
      complete (complete name language) other = complete name language) := by
  refine ⟨complete_eq_self_iff name, ?_, endsInExtension_complete name,
    complete_complete name⟩
  intro language hname
  rw [complete_of_not_ends hname, extensionFor_eq]

/-- A name with points, none of which begins an extension. -/
theorem names_completed_once_draft :
    ¬ EndsInExtension "v1.2/draft.".toList ∧
    complete "v1.2/draft." "claude-plugin" = "v1.2/draft..json" ∧
    complete (complete "v1.2/draft." "claude-plugin") "claude-agent" = "v1.2/draft..json" := by
  have hname : ¬ EndsInExtension "v1.2/draft.".toList := by
    decide
  rcases names_completed_once "v1.2/draft." with ⟨_, hadded, _, hagain⟩
  have hdraft : complete "v1.2/draft." "claude-plugin" = "v1.2/draft..json" :=
    hadded "claude-plugin" hname
  exact ⟨hname, hdraft, (hagain "claude-plugin" "claude-agent").trans hdraft⟩

end FileName
end AgentFiles
