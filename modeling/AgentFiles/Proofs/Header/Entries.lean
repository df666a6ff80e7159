import AgentFiles.Header.Values
import AgentFiles.Proofs.Keyed
import AgentFiles.Proofs.Outcome

/-!
# Entries of typed headers

What is known of a header after its entries were added. A declared key is added
once, with what its value holds; any other key needs a value without tags. The
finished header holds under a declared key what was added under it, and nothing
where nothing or null was added.
-/

namespace AgentFiles

namespace Header

def part? (header : Header) (key : String) : Option Part :=
  Keyed.find? key header.declared

def text? (header : Header) (key : String) : Option String :=
  match header.part? key with
  | some (.text s) => some s
  | _ => none

namespace Draft

theorem part?_declare (draft : Draft) (key other : String)
    (part : Option Part) :
    (draft.declare key part).part? other =
      (draft.part? other).or (if key = other then some part else none) := by
  rw [part?, declare, Keyed.find?_append]
  rfl

theorem part?_keep (draft : Draft) (key other : String) (value : Yaml.Value) :
    (draft.keep key value).part? other = draft.part? other :=
  rfl

theorem part?_eq_none_iff (draft : Draft) (key : String) :
    draft.part? key = none <-> draft.isGiven key = false := by
  rw [isGiven, Option.isSome_eq_false_iff, Option.isNone_iff_eq_none]

theorem part?_declare_of_some {draft : Draft} {key other : String}
    {part given : Option Part} (h : draft.part? other = some given) :
    (draft.declare key part).part? other = some given := by
  rw [part?_declare, h]
  rfl

theorem part?_declare_self {draft : Draft} {key : String} {part : Option Part}
    (h : draft.isGiven key = false) :
    (draft.declare key part).part? key = some part := by
  rw [part?_declare, (part?_eq_none_iff draft key).mpr h, if_pos rfl]
  rfl

end Draft

/-!
## Adding one entry
-/

theorem textOf_eq_ok_iff {expected s : String} {value : Yaml.Value} :
    textOf expected value = .ok s <-> value.text? = some s := by
  unfold textOf
  cases value.text? <;>
    simp

theorem untagged_eq_ok_iff {value result : Yaml.Value} :
    untagged value = .ok result <->
      value.hasTag = false ∧ result = value := by
  unfold untagged
  cases value.hasTag <;>
    simp [eq_comm]

theorem partOf_tools_iff {entry : Entry} {value : Yaml.Value} {part : Part}
    (htools : entry.listsTools = true) :
    partOf entry value = .ok part <->
      value.hasTag = false ∧
        exists list, ToolList.ofYaml? value = some list ∧
          part = .tools list := by
  simp only [partOf, htools, if_true, Outcome.bind_eq_ok_iff,
    untagged_eq_ok_iff]
  constructor
  · intro h
    rcases h with ⟨same, ⟨htag, hsame⟩, h⟩
    rw [hsame] at h
    cases hlist : ToolList.ofYaml? value with
    | none =>
        rw [hlist] at h
        cases h
    | some list =>
        rw [hlist] at h
        cases h
        exact ⟨htag, list, rfl, rfl⟩
  · intro h
    rcases h with ⟨htag, list, hlist, rfl⟩
    exists value
    rw [hlist]
    exact ⟨⟨htag, rfl⟩, rfl⟩

theorem partOf_text_iff {entry : Entry} {value : Yaml.Value} {part : Part}
    (htext : entry.listsTools = false) :
    partOf entry value = .ok part <->
      exists s, value.text? = some s ∧ part = .text s := by
  simp only [partOf, htext, Bool.false_eq_true, if_false,
    Outcome.bind_eq_ok_iff, textOf_eq_ok_iff]
  constructor
  · intro h
    rcases h with ⟨s, hs, h⟩
    cases h
    exact ⟨s, hs, rfl⟩
  · intro h
    rcases h with ⟨s, hs, rfl⟩
    exact ⟨s, hs, rfl⟩

theorem partOf?_eq_ok_iff {entry : Entry} {value : Yaml.Value}
    {part : Option Part} :
    partOf? entry value = .ok part <->
      (entry.required = false ∧ value = .null ∧ part = none) ∨
        ((entry.required = false -> value ≠ .null) ∧
          exists p, partOf entry value = .ok p ∧ part = some p) := by
  by_cases hnull : entry.required = false ∧ value = .null
  · rcases hnull with ⟨hoptional, rfl⟩
    simp [partOf?, hoptional, eq_comm]
  · have hmap : partOf? entry value = (partOf entry value).map some := by
      cases value with
      | null =>
          have hrequired : entry.required = true := by
            simpa using hnull
          simp [partOf?, hrequired]
      | bool | number | string | sequence | mapping | tagged =>
          rfl
    have hgiven : entry.required = false -> value ≠ .null := by
      intro hoptional hvalue
      exact hnull ⟨hoptional, hvalue⟩
    rw [hmap, Outcome.map_eq_ok_iff]
    constructor
    · intro h
      rcases h with ⟨p, hp, rfl⟩
      exact Or.inr ⟨hgiven, p, hp, rfl⟩
    · intro h
      rcases h with ⟨hoptional, hvalue, _⟩ | ⟨_, p, hp, rfl⟩
      · exact absurd ⟨hoptional, hvalue⟩ hnull
      · exact ⟨p, hp, rfl⟩

/-- What it takes to add an entry, and the draft after it. -/
inductive Added (schema : Schema) (draft : Draft) (key : String)
    (value : Yaml.Value) : Draft -> Prop where
  | declared {entry : Entry} {part : Option Part} :
      schema.find? key = some entry ->
      draft.isGiven key = false ->
      partOf? entry value = .ok part ->
      Added schema draft key value (draft.declare key part)
  | extra :
      schema.find? key = none ->
      value.hasTag = false ->
      Added schema draft key value (draft.keep key value)

theorem addValue_eq_ok_iff {schema : Schema} {draft draft' : Draft}
    {key value : Yaml.Value} :
    addValue schema draft key value = .ok draft' <->
      exists s, key.text? = some s ∧ Added schema draft s value draft' := by
  unfold addValue
  rw [Outcome.bind_eq_ok_iff]
  constructor
  · intro h
    rcases h with ⟨s, hs, h⟩
    exists s
    refine ⟨textOf_eq_ok_iff.mp hs, ?_⟩
    cases hfind : schema.find? s with
    | none =>
        simp only [hfind, Outcome.bind_eq_ok_iff, untagged_eq_ok_iff] at h
        rcases h with ⟨_, ⟨htag, rfl⟩, h⟩
        cases h
        exact .extra hfind htag
    | some entry =>
        simp only [hfind] at h
        cases hgiven : draft.isGiven s with
        | true =>
            rw [hgiven] at h
            cases h
        | false =>
            simp only [hgiven, Bool.false_eq_true, if_false,
              Outcome.bind_eq_ok_iff] at h
            rcases h with ⟨part, hpart, h⟩
            cases h
            exact .declared hfind hgiven hpart
  · intro h
    rcases h with ⟨s, hs, h⟩
    exists s
    refine ⟨textOf_eq_ok_iff.mpr hs, ?_⟩
    cases h with
    | declared hfind hgiven hpart =>
        simp only [hfind, hgiven, Bool.false_eq_true, if_false, hpart]
        rfl
    | extra hfind htag =>
        have hvalue : untagged value = .ok value :=
          untagged_eq_ok_iff.mpr ⟨htag, rfl⟩
        simp only [hfind, hvalue]
        rfl

/-!
## Adding all entries
-/

theorem addValues_cons_eq_ok_iff {schema : Schema} {draft draft' : Draft}
    {key value : Yaml.Value} {rest : List (Yaml.Value × Yaml.Value)} :
    addValues schema draft ((key, value) :: rest) = .ok draft' <->
      exists middle, addValue schema draft key value = .ok middle ∧
        addValues schema middle rest = .ok draft' := by
  rw [addValues, Outcome.bind_eq_ok_iff]

theorem Added.part?_of_some {schema : Schema} {draft draft' : Draft}
    {key other : String} {value : Yaml.Value} {given : Option Part}
    (h : Added schema draft key value draft')
    (hgiven : draft.part? other = some given) :
    draft'.part? other = some given := by
  cases h with
  | declared hfind hfresh hpart =>
      exact Draft.part?_declare_of_some hgiven
  | extra hfind htag =>
      rw [Draft.part?_keep]
      exact hgiven

theorem addValues_part?_of_some {schema : Schema} {draft draft' : Draft}
    {entries : List (Yaml.Value × Yaml.Value)} {key : String}
    {given : Option Part}
    (h : addValues schema draft entries = .ok draft')
    (hgiven : draft.part? key = some given) :
    draft'.part? key = some given := by
  induction entries generalizing draft with
  | nil =>
      cases h
      exact hgiven
  | cons entry rest ih =>
      rcases addValues_cons_eq_ok_iff.mp h with ⟨middle, hentry, hrest⟩
      rcases addValue_eq_ok_iff.mp hentry with ⟨s, _, hadded⟩
      exact ih hrest (hadded.part?_of_some hgiven)

/-!
## The finished header
-/

theorem Schema.mem_of_find? {schema : Schema} {key : String} {entry : Entry}
    (h : schema.find? key = some entry) :
    entry ∈ schema.entries ∧ entry.key = key := by
  constructor
  · exact List.mem_of_find?_eq_some h
  · simpa using List.find?_some h

theorem Draft.find?_present (draft : Draft) (key : String)
    (entries : List Entry) :
    Keyed.find? key
        (entries.filterMap fun entry =>
          (draft.part? entry.key).join.map fun part => (entry.key, part)) =
      if key ∈ entries.map (·.key) then (draft.part? key).join else none := by
  induction entries with
  | nil =>
      rfl
  | cons entry rest ih =>
      by_cases hkey : entry.key = key
      · subst hkey
        cases hpart : (draft.part? entry.key).join with
        | none =>
            simp [hpart, ih]
        | some part =>
            simp [hpart, Keyed.find?]
      · have hmem :
            key ∈ (entry :: rest).map (·.key) <-> key ∈ rest.map (·.key) := by
          simp [Ne.symm hkey]
        simp only [hmem]
        cases hpart : (draft.part? entry.key).join with
        | none =>
            simpa [hpart] using ih
        | some part =>
            simpa [hpart, Keyed.find?, hkey] using ih

/-- The declared entries of the finished header are in the order of the schema. -/
theorem Draft.complete_eq_ok_iff {schema : Schema} {draft : Draft}
    {header : Header} :
    draft.complete schema = .ok header <->
      (forall entry, entry ∈ schema.entries -> entry.required = true ->
        draft.isGiven entry.key = true) ∧
      draft.repeatedKey? = none ∧
      header =
        ⟨schema.entries.filterMap fun entry =>
            (draft.part? entry.key).join.map fun part => (entry.key, part),
          Keyed.ofList draft.extra⟩ := by
  have hmissing :
      (schema.entries.find? fun entry =>
          entry.required && !draft.isGiven entry.key) = none <->
        forall entry, entry ∈ schema.entries -> entry.required = true ->
          draft.isGiven entry.key = true := by
    simp
  rw [<- hmissing, Draft.complete]
  cases schema.entries.find? fun entry =>
      entry.required && !draft.isGiven entry.key with
  | some entry =>
      simp
  | none =>
      cases draft.repeatedKey? with
      | some key =>
          simp
      | none =>
          simp [eq_comm]

theorem Draft.complete_eq_ok {schema : Schema} {draft : Draft}
    {header : Header} (h : draft.complete schema = .ok header) :
    (forall entry, entry ∈ schema.entries -> entry.required = true ->
      draft.isGiven entry.key = true) ∧
      draft.repeatedKey? = none ∧
      header.extra = Keyed.ofList draft.extra ∧
      forall key entry, schema.find? key = some entry ->
        header.part? key = (draft.part? key).join := by
  rcases Draft.complete_eq_ok_iff.mp h with ⟨hrequired, hrepeated, heq⟩
  refine ⟨hrequired, hrepeated, by rw [heq], ?_⟩
  intro key entry hfind
  rcases Schema.mem_of_find? hfind with ⟨hentry, hkey⟩
  have hmem : key ∈ schema.entries.map (·.key) :=
    List.mem_map.mpr ⟨entry, hentry, hkey⟩
  rw [heq, Header.part?, draft.find?_present, if_pos hmem]

theorem ofEntries_eq_ok_iff {schema : Schema}
    {entries : List (Yaml.Value × Yaml.Value)} {header : Header} :
    ofEntries schema entries = .ok header <->
      exists draft, addValues schema {} entries = .ok draft ∧
        draft.complete schema = .ok header := by
  rw [ofEntries, Outcome.bind_eq_ok_iff]

end Header
end AgentFiles
