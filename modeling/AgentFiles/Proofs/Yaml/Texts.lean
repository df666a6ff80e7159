import AgentFiles.Yaml.Value

/-!
# Texts among values

A value is a text by itself or under tags. Only a text by itself is found as a key, and
what a text finds among the entries of a mapping is the value of one of them.
-/

namespace AgentFiles
namespace Yaml
namespace Value

/-!
## Texts under tags
-/

/-- Whether the value itself is under a tag. -/
def isTagged : Value -> Bool
  | .tagged _ _ => true
  | _ => false

theorem eq_string_of_text? {value : Value} {s : String}
    (htag : value.isTagged = false) (hs : value.text? = some s) :
    value = .string s := by
  cases value with
  | string t =>
      cases hs
      rfl
  | tagged name inner =>
      cases htag
  | null | bool | number | sequence | mapping =>
      cases hs

inductive IsText (s : String) : Value -> Prop where
  | string : IsText s (.string s)
  | tagged {tag : String} {value : Value} (h : IsText s value) :
      IsText s (.tagged tag value)

theorem text?_eq_some_iff (s : String) : forall value : Value,
    value.text? = some s <-> value.IsText s
  | .string t => by
      constructor
      · intro h
        cases h
        exact .string
      · intro h
        cases h
        rfl
  | .tagged tag value => by
      rw [show (Value.tagged tag value).text? = value.text? from rfl, text?_eq_some_iff s value]
      constructor
      · exact .tagged
      · intro h
        cases h with
        | tagged h =>
            exact h
  | .null | .bool _ | .number _ | .sequence _ | .mapping _ =>
      ⟨nofun, nofun⟩

theorem same_string_iff {value : Value} {s : String} :
    value.same (.string s) = true <-> value = .string s := by
  cases value <;>
    simp [same]

/-!
## Looking up
-/

section Lookup

variable {key : String} {value : Value} {entries : List (Value × Value)}

theorem lookup_string_cons (key k : String) (value : Value)
    (rest : List (Value × Value)) :
    lookup key ((.string k, value) :: rest) =
      if k = key then some value else lookup key rest :=
  rfl

theorem mem_of_lookup (h : lookup key entries = some value) :
    (.string key, value) ∈ entries := by
  induction entries with
  | nil =>
      cases h
  | cons entry rest ih =>
      rcases entry with ⟨k, v⟩
      cases k with
      | string k =>
          rw [lookup_string_cons] at h
          split at h
          · rename_i hkey
            cases h
            rw [hkey]
            exact List.mem_cons_self
          · exact List.mem_cons_of_mem _ (ih h)
      | null | bool | number | sequence | mapping | tagged =>
          exact List.mem_cons_of_mem _ (ih h)

theorem exists_lookup_iff :
    (exists value, lookup key entries = some value) <->
      exists value, (.string key, value) ∈ entries := by
  constructor
  · rintro ⟨value, h⟩
    exact ⟨value, mem_of_lookup h⟩
  · rintro ⟨value, hmem⟩
    induction entries with
    | nil =>
        cases hmem
    | cons entry rest ih =>
        rcases entry with ⟨k, v⟩
        cases k with
        | string k =>
            rw [lookup_string_cons]
            by_cases hkey : k = key
            · exact ⟨v, if_pos hkey⟩
            · rw [if_neg hkey]
              apply ih
              simpa [Ne.symm hkey] using hmem
        | null | bool | number | sequence | mapping | tagged =>
            exact ih (by simpa using hmem)

end Lookup

end Value
end Yaml
end AgentFiles
