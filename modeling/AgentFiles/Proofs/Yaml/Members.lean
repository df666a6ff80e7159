import AgentFiles.Proofs.Keyed
import AgentFiles.Yaml.Reading

/-!
# Mappings from texts

The keys of a mapping may be any values, and where none repeats no two of them are the
same. Where all of them are texts, its entries are the same as a list of keys with
values: looking a key up, finding a tag and finding a key that repeats come down to the
same questions about that list.
-/

namespace AgentFiles
namespace Yaml
namespace Value

variable {key : String} {members : List (String × Value)}
variable {entries : List (Value × Value)}

def ofMembers (members : List (String × Value)) : List (Value × Value) :=
  members.map fun member => (.string member.1, member.2)

/-- A mapping from texts: no tag stands anywhere in it, and no two keys of one
mapping are the same, neither here nor in a value. -/
structure MapsTexts (entries : List (Value × Value)) : Prop where
  texts : forall entry, entry ∈ entries -> exists key, entry.1 = .string key
  untagged : entriesHaveTag entries = false
  distinct : (Value.mapping entries).repeatedKey? = none

theorem distinct_of_repeatedInEntries? {seen : List Value}
    (h : repeatedInEntries? seen entries = none) :
    (forall other, other ∈ seen -> forall entry, entry ∈ entries ->
      other.same entry.1 = false) ∧
    entries.Pairwise fun entry later => entry.1.same later.1 = false := by
  induction entries generalizing seen with
  | nil =>
      exact ⟨fun _ _ _ hnone => absurd hnone List.not_mem_nil, .nil⟩
  | cons entry rest ih =>
      rcases entry with ⟨key, value⟩
      simp only [repeatedInEntries?, Option.or_eq_none_iff] at h
      rcases h with ⟨_, hkey, _, hrest⟩
      rcases ih hrest with ⟨hseen, hdistinct⟩
      rcases List.forall_mem_cons.mp hseen with ⟨hfirst, hothers⟩
      constructor
      · intro other hother
        have hother' : other.same key = false := by
          simpa using List.find?_eq_none.mp hkey other hother
        exact List.forall_mem_cons.mpr ⟨hother', hothers other hother⟩
      · exact List.pairwise_cons.mpr ⟨hfirst, hdistinct⟩

theorem exists_members
    (htexts : forall entry, entry ∈ entries -> exists key, entry.1 = .string key) :
    exists members, entries = ofMembers members := by
  induction entries with
  | nil =>
      exact ⟨[], rfl⟩
  | cons entry rest ih =>
      rcases entry with ⟨k, value⟩
      rcases htexts _ List.mem_cons_self with ⟨key, hkey⟩
      rcases ih fun entry hentry => htexts entry (List.mem_cons_of_mem _ hentry) with
        ⟨members, hmembers⟩
      subst hkey
      exact ⟨(key, value) :: members, by rw [hmembers]; rfl⟩

theorem texts_ofMembers :
    forall entry, entry ∈ ofMembers members -> exists key, entry.1 = .string key := by
  intro entry hentry
  rcases List.mem_map.mp hentry with ⟨member, _, heq⟩
  exact ⟨member.1, by rw [<- heq]⟩

theorem lookup_ofMembers :
    lookup key (ofMembers members) = Keyed.find? key members := by
  induction members with
  | nil =>
      rfl
  | cons member rest ih =>
      rw [ofMembers, List.map_cons, lookup, Keyed.find?, <- ih]
      rfl

theorem entriesHaveTag_ofMembers :
    entriesHaveTag (ofMembers members) = false <->
      forall member, member ∈ members -> member.2.hasTag = false := by
  induction members with
  | nil =>
      simp [ofMembers, entriesHaveTag]
  | cons member rest ih =>
      rw [List.forall_mem_cons, <- ih]
      simp [ofMembers, entriesHaveTag, hasTag]

theorem repeatedInEntries?_text_cons {seen : List String} {value : Value} :
    repeatedInEntries? (seen.map .string) ((.string key, value) :: entries) = none <->
      key ∉ seen ∧ value.repeatedKey? = none ∧
        repeatedInEntries? ((key :: seen).map .string) entries = none := by
  have hseen :
      ((seen.map Value.string).find? fun other => other.same (.string key)) = none <->
        key ∉ seen := by
    rw [List.find?_eq_none, List.forall_mem_map]
    simp only [same, beq_iff_eq]
    exact ⟨fun h hkey => h key hkey rfl, fun h other hother heq => h (heq ▸ hother)⟩
  simp only [repeatedInEntries?, Option.or_eq_none_iff, hseen, repeatedKey?, true_and,
    List.map_cons]

theorem repeatedInEntries?_ofMembers {seen : List String} :
    repeatedInEntries? (seen.map .string) (ofMembers members) = none <->
      (members.map (·.1)).Nodup ∧
        forall member, member ∈ members ->
          member.1 ∉ seen ∧ member.2.repeatedKey? = none := by
  induction members generalizing seen with
  | nil =>
      simp [ofMembers, repeatedInEntries?]
  | cons member rest ih =>
      have hcons : repeatedInEntries? (seen.map .string) (ofMembers (member :: rest)) =
            none <->
          member.1 ∉ seen ∧ member.2.repeatedKey? = none ∧
            repeatedInEntries? ((member.1 :: seen).map .string) (ofMembers rest) = none :=
        repeatedInEntries?_text_cons
      rw [hcons, ih, List.map_cons, List.nodup_cons, List.forall_mem_cons]
      have hfresh : (forall other, other ∈ rest ->
            other.1 ∉ member.1 :: seen ∧ other.2.repeatedKey? = none) <->
          member.1 ∉ rest.map (·.1) ∧ forall other, other ∈ rest ->
            other.1 ∉ seen ∧ other.2.repeatedKey? = none := by
        simp only [List.mem_cons, not_or, List.mem_map, not_exists, not_and]
        constructor
        · intro h
          exact ⟨fun other hother => (h other hother).left.left,
            fun other hother => ⟨(h other hother).left.right, (h other hother).right⟩⟩
        · rintro ⟨hfirst, hothers⟩ other hother
          exact ⟨⟨hfirst other hother, (hothers other hother).left⟩,
            (hothers other hother).right⟩
      rw [hfresh]
      constructor
      · rintro ⟨hkey, hvalue, hnodup, hfirst, hothers⟩
        exact ⟨⟨hfirst, hnodup⟩, ⟨hkey, hvalue⟩, hothers⟩
      · rintro ⟨⟨hfirst, hnodup⟩, ⟨hkey, hvalue⟩, hothers⟩
        exact ⟨hkey, hvalue, hnodup, hfirst, hothers⟩

theorem mapsTexts_ofMembers :
    MapsTexts (ofMembers members) <->
      (members.map (·.1)).Nodup ∧
        forall member, member ∈ members ->
          member.2.hasTag = false ∧ member.2.repeatedKey? = none := by
  have hdistinct :
      (Value.mapping (ofMembers members)).repeatedKey? = none <->
        (members.map (·.1)).Nodup ∧
          forall member, member ∈ members -> member.2.repeatedKey? = none := by
    rw [repeatedKey?]
    have hfresh := @repeatedInEntries?_ofMembers members []
    simpa using hfresh
  constructor
  · intro h
    rcases hdistinct.mp h.distinct with ⟨hnodup, hvalues⟩
    exact ⟨hnodup, fun member hmember =>
      ⟨entriesHaveTag_ofMembers.mp h.untagged member hmember, hvalues member hmember⟩⟩
  · rintro ⟨hnodup, hvalues⟩
    constructor
    · exact texts_ofMembers
    · exact entriesHaveTag_ofMembers.mpr fun member hmember => (hvalues member hmember).left
    · exact hdistinct.mpr ⟨hnodup, fun member hmember => (hvalues member hmember).right⟩

end Value
end Yaml
end AgentFiles
