import AgentFiles.Proofs.Check.Forms
import AgentFiles.Proofs.Check.HeaderAndBody
import AgentFiles.Proofs.Naming
import AgentFiles.Proofs.Outcome

/-!
# Unset is missing

A value that does not count as filled in is treated as if it were not there, and
a verdict depends on nothing but the few values that the kind of the file asks
for. For JSON files these stand at fixed positions, for Markdown files they are
the name, the description and the model in the header; beyond that it matters
only whether there is a header and whether there is a body.
-/

namespace AgentFiles
namespace Check

/-!
## Patterns refuse points

Names and dated models have no point in them, so that two texts which are alike
but for the sign of a zero are refused alike.
-/

section Patterns

open Yaml.Value (AlikeTexts)

variable {s t : List Char}

theorem admits_of_point (naming : Naming) (hs : '.' ∈ s) :
    naming.admits s = false :=
  (TextPattern.name naming).admits_of_not_allowed hs (by decide)

theorem admits_congr (naming : Naming) (h : AlikeTexts s t) :
    naming.admits s = naming.admits t := by
  rcases h with heq | ⟨hs, ht⟩
  · rw [heq]
  · rw [admits_of_point naming hs, admits_of_point naming ht]

theorem isDated_of_point (hs : '.' ∈ s) : Model.isDated s = false :=
  TextPattern.datedModel.admits_of_not_allowed hs (by decide)

theorem isDated_congr (h : AlikeTexts s t) :
    Model.isDated s = Model.isDated t := by
  rcases h with heq | ⟨hs, ht⟩
  · rw [heq]
  · rw [isDated_of_point hs, isDated_of_point ht]

end Patterns

/-!
## Entries that are filled in
-/

section Entries

open Yaml (Value)

variable {entries entries' : Entries}

def filledValue? (key : String) (entries : Entries) : Option Value :=
  (Value.lookup key entries).filter Value.isSet

/-- Both values are missing, or they are the same. -/
def SameOrMissing (a? b? : Option Value) : Prop :=
  Option.Rel (fun a b => Value.same a b = true) a? b?

instance (a? b? : Option Value) : Decidable (SameOrMissing a? b?) :=
  inferInstanceAs (Decidable (Option.Rel _ _ _))

def headerKeys : List String :=
  ["name", "description", "model"]

def SameEntries (entries entries' : Entries) : Prop :=
  forall key, key ∈ headerKeys ->
    SameOrMissing (filledValue? key entries) (filledValue? key entries')

theorem filledValue?_of_isSet {key : String} {value : Value}
    (hlookup : Value.lookup key entries = some value)
    (hset : value.isSet = true) : filledValue? key entries = some value := by
  rw [filledValue?, hlookup, Option.filter_some, if_pos hset]

theorem filledValue?_of_not_isSet {key : String} {value : Value}
    (hlookup : Value.lookup key entries = some value)
    (hset : value.isSet = false) : filledValue? key entries = none := by
  rw [filledValue?, hlookup, Option.filter_some, if_neg (by simp [hset])]

theorem filledValue?_of_no_entry {key : String}
    (hlookup : Value.lookup key entries = none) :
    filledValue? key entries = none := by
  rw [filledValue?, hlookup]
  rfl

theorem exceeds_of_not_isSet {value : Value} (hset : value.isSet = false)
    (limit : Nat) : exceeds (some value) limit = false := by
  cases value with
  | string s =>
      have hs : s = "" := by simpa [Value.isSet] using hset
      subst hs
      simp [exceeds, Value.text?, Value.untag, Text.units16]
  | sequence | mapping | tagged =>
      cases hset
  | null | bool | number =>
      rfl

theorem exceeds_eq_filled (key : String) (entries : Entries) (limit : Nat) :
    exceeds (Value.lookup key entries) limit =
      exceeds (filledValue? key entries) limit := by
  cases hlookup : Value.lookup key entries with
  | none =>
      rw [filledValue?_of_no_entry hlookup]
  | some value =>
      cases hset : value.isSet with
      | true =>
          rw [filledValue?_of_isSet hlookup hset]
      | false =>
          rw [filledValue?_of_not_isSet hlookup hset,
            exceeds_of_not_isSet hset]
          rfl

def nameFinding (identity : Identity) : Option Value -> Verdict
  | some value =>
    .errorIf (!identity.naming.admits value.plainText) identity.invalidName
  | none => .failure identity.missingName

theorem name_eq_filled (identity : Identity) (entries : Entries) :
    name identity entries =
      nameFinding identity (filledValue? "name" entries) := by
  cases hlookup : Value.lookup "name" entries with
  | none =>
      rw [name, hlookup, filledValue?_of_no_entry hlookup]
      rfl
  | some value =>
      cases hset : value.isSet with
      | true =>
          rw [filledValue?_of_isSet hlookup hset]
          simp only [name, hlookup, hset, if_true, nameFinding]
      | false =>
          rw [filledValue?_of_not_isSet hlookup hset]
          simp [name, hlookup, hset, nameFinding]

theorem isSet_eq_filled (key : String) (entries : Entries) :
    isSet (Value.lookup key entries) = (filledValue? key entries).isSome := by
  cases hlookup : Value.lookup key entries with
  | none =>
      rw [filledValue?_of_no_entry hlookup]
      rfl
  | some value =>
      cases hset : value.isSet with
      | true =>
          rw [filledValue?_of_isSet hlookup hset]
          exact hset
      | false =>
          rw [filledValue?_of_not_isSet hlookup hset]
          exact hset

def modelFinding : Option Value -> Verdict
  | some value => .warningIf (!namesModel value) modelAdvice
  | none => .empty

theorem model_eq_filled (entries : Entries) :
    model entries = modelFinding (filledValue? "model" entries) := by
  cases hlookup : Value.lookup "model" entries with
  | none =>
      rw [model, hlookup, filledValue?_of_no_entry hlookup]
      rfl
  | some value =>
      cases hset : value.isSet with
      | true =>
          rw [filledValue?_of_isSet hlookup hset]
          simp only [model, hlookup, hset, Bool.true_and, modelFinding]
      | false =>
          rw [filledValue?_of_not_isSet hlookup hset]
          simp only [model, hlookup, hset, Bool.false_and]
          rfl

/-!
## Same entries, same findings
-/

theorem exceeds_congr {a? b? : Option Value} (h : SameOrMissing a? b?)
    (limit : Nat) : exceeds a? limit = exceeds b? limit := by
  cases h with
  | none =>
      rfl
  | some hsame =>
      rename_i a b
      rw [exceeds, exceeds, Option.bind_some, Option.bind_some,
        Value.text?_of_same a hsame]

theorem isSome_congr {a? b? : Option Value} (h : SameOrMissing a? b?) :
    a?.isSome = b?.isSome := by
  cases h <;>
    rfl

theorem nameLength_congr (limits : Limits) (h : SameEntries entries entries') :
    nameLength limits entries = nameLength limits entries' := by
  rw [nameLength, nameLength, exceeds_eq_filled, exceeds_eq_filled,
    exceeds_congr (h "name" (by decide))]

theorem descriptionLength_congr (limits : Limits)
    (h : SameEntries entries entries') :
    descriptionLength limits entries = descriptionLength limits entries' := by
  rw [descriptionLength, descriptionLength, exceeds_eq_filled,
    exceeds_eq_filled, exceeds_congr (h "description" (by decide))]

theorem nameFinding_congr (identity : Identity) {a? b? : Option Value}
    (h : SameOrMissing a? b?) :
    nameFinding identity a? = nameFinding identity b? := by
  cases h with
  | none =>
      rfl
  | some hsame =>
      rename_i a b
      rw [nameFinding, nameFinding,
        admits_congr identity.naming (Value.alikeTexts_of_same a hsame)]

theorem modelFinding_congr {a? b? : Option Value} (h : SameOrMissing a? b?) :
    modelFinding a? = modelFinding b? := by
  cases h with
  | none =>
      rfl
  | some hsame =>
      rename_i a b
      rw [modelFinding, modelFinding, namesModel, namesModel,
        Value.text?_of_same a hsame,
        isDated_congr (Value.alikeTexts_of_same a hsame)]

theorem identityFindings_congr (identity : Identity)
    (more : Entries -> Verdict) (limits : Limits)
    (hmore : more entries = more entries')
    (h : SameEntries entries entries') :
    identityFindings identity more limits (some entries) =
      identityFindings identity more limits (some entries') := by
  have hname := nameFinding_congr identity (h "name" (by decide))
  have hset := isSome_congr (h "description" (by decide))
  rw [identityFindings, identityFindings, name_eq_filled, name_eq_filled,
    description, description, isSet_eq_filled, isSet_eq_filled, hname, hset,
    descriptionLength_congr limits h, hmore]

theorem headerFindings_congr (limits : Limits) (kind : Kind)
    (h : SameEntries entries entries') :
    headerFindings limits kind (some entries) =
      headerFindings limits kind (some entries') := by
  cases kind with
  | memory =>
      rw [headerFindings, headerFindings, nameLength_congr limits h,
        descriptionLength_congr limits h]
  | command =>
      rw [headerFindings, headerFindings, descriptionLength_congr limits h]
  | agent =>
      have hmodel : model entries = model entries' := by
        rw [model_eq_filled, model_eq_filled,
          modelFinding_congr (h "model" (by decide))]
      exact identityFindings_congr .agent model limits hmodel h
  | skill =>
      exact identityFindings_congr .skill (fun _ => .empty) limits rfl h
  | outputStyle =>
      exact identityFindings_congr .outputStyle (fun _ => .empty) limits rfl h
  | hook | settings | plugin | marketplace =>
      rfl

end Entries

/-!
## Unset is missing for every kind
-/

def headerValue? (key : String) (content : String) : Option Yaml.Value :=
  (Markdown.parse content).entries?.bind (filledValue? key)

/-- The positions that a JSON kind looks at, but for what is in a list of plugins. -/
def inspectedPaths : Kind -> List (List String)
  | .settings => settingsPaths
  | .plugin => pluginPaths
  | .marketplace => marketplacePaths
  | _ => []

theorem nil_not_mem_inspectedPaths (kind : Kind) :
    [] ∉ inspectedPaths kind := by
  cases kind <;>
    decide

theorem contentOf_eq_of_same_forms {kind : Kind}
    (hkind : kind.holdsJson = true) (limits : Limits)
    {content content' : String} {v w : Json.Value}
    (hv : Json.Value.ofText content = .ok v)
    (hw : Json.Value.ofText content' = .ok w)
    (hvnull : v ≠ .null) (hwnull : w ≠ .null)
    (hforms : SameForms (inspectedPaths kind) v w)
    (hlistings : kind = .marketplace -> SameListings v w) :
    contentOf limits kind content = contentOf limits kind content' := by
  cases kind with
  | settings =>
      change settings content = settings content'
      rw [settings, settings, whole_eq hv hvnull, whole_eq hw hwnull]
      exact settingsValue_congr hforms
  | plugin =>
      change plugin content = plugin content'
      rw [plugin, plugin, whole_eq hv hvnull, whole_eq hw hwnull]
      exact pluginValue_congr hforms
  | marketplace =>
      change marketplace content = marketplace content'
      rw [marketplace, marketplace, whole_eq hv hvnull, whole_eq hw hwnull]
      exact marketplaceValue_congr hforms (hlistings rfl)
  | memory | command | agent | skill | hook | outputStyle =>
      cases hkind

theorem contentOf_eq_of_same_header {kind : Kind}
    (hkind : kind.holdsJson = false) (limits : Limits)
    {content content' : String}
    (hheader : (Markdown.parse content).hasHeader =
      (Markdown.parse content').hasHeader)
    (hbody : (Markdown.parse content).hasBody =
      (Markdown.parse content').hasBody)
    (hvalues : forall key, key ∈ headerKeys ->
      SameOrMissing (headerValue? key content) (headerValue? key content')) :
    contentOf limits kind content = contentOf limits kind content' := by
  refine contentOf_congr hkind limits ?_ hbody
  cases hentries : (Markdown.parse content).entries? with
  | none =>
      cases hentries' : (Markdown.parse content').entries? with
      | none =>
          rfl
      | some entries' =>
          simp [Markdown.Document.hasHeader, hentries, hentries'] at hheader
  | some entries =>
      cases hentries' : (Markdown.parse content').entries? with
      | none =>
          simp [Markdown.Document.hasHeader, hentries, hentries'] at hheader
      | some entries' =>
          apply headerFindings_congr
          intro key hkey
          have hvalue := hvalues key hkey
          rw [headerValue?, headerValue?, hentries, hentries'] at hvalue
          exact hvalue

/--
Two JSON texts whose values have the same forms where the kind looks, and two
Markdown texts that agree on the few entries that are asked for and on having a
header and a body, get the same verdict. A value without members gets the
verdict of an empty object.
-/
theorem unset_is_missing (limits : Limits) (kind : Kind) :
    (kind.holdsJson = true ->
      (forall (content content' : String) (v w : Json.Value),
        Json.Value.ofText content = .ok v ->
        Json.Value.ofText content' = .ok w -> v ≠ .null -> w ≠ .null ->
        SameForms (inspectedPaths kind) v w ->
        (kind = .marketplace -> SameListings v w) ->
          contentOf limits kind content = contentOf limits kind content') ∧
      (forall (content : String) (v : Json.Value),
        Json.Value.ofText content = .ok v -> v ≠ .null ->
        v.isObject = false ->
          contentOf limits kind content = contentOf limits kind "\x7b\x7d")) ∧
    (kind.holdsJson = false ->
      forall content content' : String,
        (Markdown.parse content).hasHeader =
          (Markdown.parse content').hasHeader ->
        (Markdown.parse content).hasBody =
          (Markdown.parse content').hasBody ->
        (forall key, key ∈ headerKeys ->
          SameOrMissing (headerValue? key content)
            (headerValue? key content')) ->
          contentOf limits kind content = contentOf limits kind content') := by
  constructor
  · intro hkind
    constructor
    · intro content content' v w hv hw hvnull hwnull hforms hlistings
      exact contentOf_eq_of_same_forms hkind limits hv hw hvnull hwnull hforms
        hlistings
    · intro content v hv hvnull hmembers
      have hempty : Json.Value.ofText "\x7b\x7d" = .ok (.object []) := rfl
      apply contentOf_eq_of_same_forms hkind limits hv hempty hvnull
      · simp
      · intro path hpath
        cases path with
        | nil =>
            exact absurd hpath (nil_not_mem_inspectedPaths kind)
        | cons key rest =>
            rw [formAt?_of_no_member (member?_of_no_members hmembers key),
              formAt?_of_no_member rfl]
      · intro _
        rw [SameListings, pluginItems?_of_no_member
          (member?_of_no_members hmembers _), pluginItems?_of_no_member rfl]
        exact .none
  · intro hkind content content' hheader hbody hvalues
    exact contentOf_eq_of_same_header hkind limits hheader hbody hvalues

/-- A catalog with an owner that has no members, and with zeros and a plugin that is no object. -/
def looseCatalog : String :=
  "\x7b\"name\": \"m\", \"owner\": \"o\", \"plugins\": " ++
    "[\x7b\"name\": -0, \"source\": \"s\"\x7d, []]\x7d"

def emptyCatalog : String :=
  "\x7b\"name\": \"m\", \"owner\": \x7b\"name\": 0.0\x7d, \"plugins\": " ++
    "[\x7b\"source\": \"s\", \"tags\": 1\x7d, \x7b\"name\": false\x7d]\x7d"

def zeroAgent : String :=
  "---\nname: a-b\ndescription: 0\nmodel: [x, 0.0]\ncolor: 1\n---\nBody"

def bareAgent : String :=
  "---\nmodel: [x, -0.0]\nname: a-b\n---\n---\n"

theorem unset_is_missing_catalog_and_agent :
    (exists v w, Json.Value.ofText looseCatalog = .ok v ∧
      Json.Value.ofText emptyCatalog = .ok w ∧ v ≠ .null ∧ w ≠ .null ∧
      SameForms marketplacePaths v w ∧ SameListings v w ∧
      contentOf {} .marketplace looseCatalog =
        contentOf {} .marketplace emptyCatalog) ∧
    (exists v, Json.Value.ofText "[null]" = .ok v ∧ v ≠ .null ∧
      v.isObject = false ∧
      contentOf {} .plugin "[null]" = contentOf {} .plugin "\x7b\x7d") ∧
    (Markdown.parse zeroAgent).hasHeader = true ∧
    (Markdown.parse bareAgent).hasHeader = true ∧
    (Markdown.parse zeroAgent).hasBody = (Markdown.parse bareAgent).hasBody ∧
    (forall key, key ∈ headerKeys ->
      SameOrMissing (headerValue? key zeroAgent)
        (headerValue? key bareAgent)) ∧
    contentOf {} .agent zeroAgent = contentOf {} .agent bareAgent := by
  have hcatalogs :
      ((Json.Value.ofText looseCatalog).toOption.any fun v =>
        (Json.Value.ofText emptyCatalog).toOption.any fun w =>
          decide (isNull v = false ∧ isNull w = false ∧
            SameForms marketplacePaths v w ∧ SameListings v w)) = true := by
    decide +kernel
  -- One statement about both agents, so that each of them is parsed only once.
  have hagents : (Markdown.parse zeroAgent).hasHeader = true ∧
      (Markdown.parse bareAgent).hasHeader = true ∧
      (Markdown.parse zeroAgent).hasBody = (Markdown.parse bareAgent).hasBody ∧
      forall key, key ∈ headerKeys ->
        SameOrMissing (headerValue? key zeroAgent)
          (headerValue? key bareAgent) := by
    decide +kernel
  rcases hagents with ⟨hheader, hheader', hbody, hvalues⟩
  rcases (Option.any_eq_true _ _).mp hcatalogs with ⟨v, hv, hrest⟩
  rcases (Option.any_eq_true _ _).mp hrest with ⟨w, hw, hboth⟩
  rcases of_decide_eq_true hboth with ⟨hvnull, hwnull, hforms, hlistings⟩
  have hv := Outcome.toOption_eq_some_iff.mp hv
  have hw := Outcome.toOption_eq_some_iff.mp hw
  have hvnull : v ≠ .null := ne_null_of_isNull hvnull
  have hwnull : w ≠ .null := ne_null_of_isNull hwnull
  have hlist : Json.Value.ofText "[null]" = .ok (.array [.null]) := rfl
  have hmarketplace := ((unset_is_missing {} .marketplace).left rfl).left
  have hplugin := ((unset_is_missing {} .plugin).left rfl).right
  refine ⟨⟨v, w, hv, hw, hvnull, hwnull, hforms, hlistings, ?_⟩,
    ⟨.array [.null], hlist, by simp, rfl, ?_⟩, hheader, hheader', hbody,
    hvalues, ?_⟩
  · exact hmarketplace _ _ v w hv hw hvnull hwnull hforms fun _ => hlistings
  · exact hplugin _ _ hlist (by simp) rfl
  · exact (unset_is_missing {} .agent).right rfl _ _
      (hheader.trans hheader'.symm) hbody hvalues

end Check
end AgentFiles
