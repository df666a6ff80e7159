import AgentFiles.Proofs.Header.Lookup
import AgentFiles.Proofs.Text.Bytes
import AgentFiles.Proofs.Yaml.Members
import Mathlib.Data.List.Nodup

/-!
# Mappings that become headers

A mapping from texts without tags becomes a header exactly if every declared entry
finds what it accepts. Shown as a mapping again, the header has the entries that
the mapping had, other than nulls where an entry may be missing: first the declared
ones in the order of the schema, and then all others in the order of their bytes.
-/

namespace AgentFiles
namespace Header

open Yaml (Value)
open Yaml.Value (ofMembers MapsTexts)

/-- What a declared entry may hold: a text, tools as a list where it lists them, and
null where it may be missing. -/
def Entry.Accepts (entry : Entry) (value : Value) : Prop :=
  (entry.required = false ∧ value = .null) ∨ (exists s, value = .string s) ∨
    (entry.listsTools = true ∧
      exists items : List String, value = .sequence (items.map .string))

def Schema.Accepts (schema : Schema) (entries : List (Value × Value)) : Prop :=
  forall entry, entry ∈ schema.entries ->
    match Value.lookup entry.key entries with
    | some value => entry.Accepts value
    | none => entry.required = false

/-- An entry that a header does not show: null under a key that may be missing. -/
def Schema.Drops (schema : Schema) (key : String) (value : Value) : Prop :=
  value = .null ∧
    exists entry, entry ∈ schema.entries ∧ entry.key = key ∧ entry.required = false

/-!
## Parts of a header
-/

section Parts

variable {entry : Entry} {value : Value} {part : Option Part}

theorem isTagged_of_hasTag (htag : value.hasTag = false) : value.isTagged = false := by
  cases value with
  | tagged name inner =>
      simp [Value.hasTag] at htag
  | null | bool | number | string | sequence | mapping =>
      rfl

theorem yamlTexts?_map (items : List String) :
    ToolList.yamlTexts? (items.map .string) = some items := by
  induction items with
  | nil =>
      rfl
  | cons item rest ih =>
      rw [List.map_cons, ToolList.yamlTexts?, ih]
      rfl

theorem eq_map_of_yamlTexts? {values : List Value} {items : List String}
    (h : ToolList.yamlTexts? values = some items) : values = items.map .string := by
  induction values generalizing items with
  | nil =>
      injection h with hitems
      rw [<- hitems]
      rfl
  | cons value rest ih =>
      cases value with
      | string s =>
          rcases Option.map_eq_some_iff.mp h with ⟨others, hothers, heq⟩
          rw [<- heq, ih hothers]
          rfl
      | null | bool | number | sequence | mapping | tagged =>
          cases h

theorem toYaml_of_ofYaml? {list : ToolList} (h : ToolList.ofYaml? value = some list) :
    (Part.tools list).toYaml = value := by
  cases value with
  | sequence values =>
      rcases Option.map_eq_some_iff.mp h with ⟨items, hitems, heq⟩
      rw [<- heq, eq_map_of_yamlTexts? hitems]
      rfl
  | string line =>
      injection h with hlist
      rw [<- hlist]
      rfl
  | null | bool | number | mapping | tagged =>
      cases h

theorem toYaml_ne_null (p : Part) : p.toYaml ≠ .null := by
  rcases p with _ | ⟨_ | _⟩ <;>
    simp [Part.toYaml]

theorem toYaml_of_partOf {p : Part} (htag : value.hasTag = false)
    (h : partOf entry value = .ok p) : p.toYaml = value := by
  cases htools : entry.listsTools with
  | true =>
      rcases (partOf_tools_iff htools).mp h with ⟨_, list, hlist, heq⟩
      rw [heq, toYaml_of_ofYaml? hlist]
  | false =>
      rcases (partOf_text_iff htools).mp h with ⟨s, hs, heq⟩
      rw [heq, Value.eq_string_of_text? (isTagged_of_hasTag htag) hs]
      rfl

theorem accepts_of_partOf {p : Part} (htag : value.hasTag = false)
    (h : partOf entry value = .ok p) : entry.Accepts value := by
  have hshown := toYaml_of_partOf htag h
  cases p with
  | text s =>
      exact .inr (.inl ⟨s, hshown.symm⟩)
  | tools list =>
      cases list with
      | inline line =>
          exact .inr (.inl ⟨line, hshown.symm⟩)
      | list items =>
          cases htools : entry.listsTools with
          | true =>
              exact .inr (.inr ⟨htools, items, hshown.symm⟩)
          | false =>
              rcases (partOf_text_iff htools).mp h with ⟨_, _, heq⟩
              cases heq

theorem partOf_of_string (s : String) : exists p, partOf entry (.string s) = .ok p := by
  cases htools : entry.listsTools with
  | true =>
      exact ⟨_, (partOf_tools_iff htools).mpr ⟨rfl, .inline s, rfl, rfl⟩⟩
  | false =>
      exact ⟨_, (partOf_text_iff htools).mpr ⟨s, rfl, rfl⟩⟩

theorem partOf_of_texts (htools : entry.listsTools = true) {items : List String}
    (htag : (Value.sequence (items.map .string)).hasTag = false) :
    exists p, partOf entry (.sequence (items.map .string)) = .ok p := by
  have hlist :
      ToolList.ofYaml? (.sequence (items.map .string)) = some (.list items) := by
    rw [ToolList.ofYaml?, yamlTexts?_map]
    rfl
  exact ⟨_, (partOf_tools_iff htools).mpr ⟨htag, .list items, hlist, rfl⟩⟩

theorem partOf?_of_accepts (htag : value.hasTag = false) (h : entry.Accepts value) :
    exists part, partOf? entry value = .ok part := by
  rcases h with ⟨hoptional, hnull⟩ | ⟨s, hs⟩ | ⟨htools, items, hitems⟩
  · exact ⟨none, partOf?_eq_ok_iff.mpr (.inl ⟨hoptional, hnull, rfl⟩)⟩
  · subst hs
    rcases partOf_of_string s with ⟨p, hp⟩
    exact ⟨some p, partOf?_eq_ok_iff.mpr (.inr ⟨fun _ => by simp, p, hp, rfl⟩)⟩
  · subst hitems
    rcases partOf_of_texts htools htag with ⟨p, hp⟩
    exact ⟨some p, partOf?_eq_ok_iff.mpr (.inr ⟨fun _ => by simp, p, hp, rfl⟩)⟩

theorem accepts_of_partOf? (htag : value.hasTag = false)
    (h : partOf? entry value = .ok part) : entry.Accepts value := by
  rcases partOf?_eq_ok_iff.mp h with ⟨hoptional, hnull, _⟩ | ⟨_, p, hp, _⟩
  · exact .inl ⟨hoptional, hnull⟩
  · exact accepts_of_partOf htag hp

theorem map_toYaml_of_partOf? (htag : value.hasTag = false)
    (h : partOf? entry value = .ok part) {shown : Value} :
    part.map Part.toYaml = some shown <->
      value = shown ∧ ¬ (shown = .null ∧ entry.required = false) := by
  rcases partOf?_eq_ok_iff.mp h with ⟨hoptional, hnull, hpart⟩ | ⟨_, p, hp, hpart⟩
  · simp [hpart, hnull, hoptional, eq_comm]
  · have hvalue := toYaml_of_partOf htag hp
    have hne := toYaml_ne_null p
    rw [hvalue] at hne
    simp only [hpart, Option.map_some, hvalue, Option.some.injEq]
    constructor
    · rintro rfl
      exact ⟨rfl, fun hdropped => hne hdropped.left⟩
    · exact fun h => h.left

end Parts

/-!
## Taking a header from members
-/

section Taking

variable {schema : Schema} {members : List (String × Value)} {header : Header}
variable {key : String} {entry : Entry} {draft draft' : Draft}

def undeclared (schema : Schema) (members : List (String × Value)) :
    List (String × Value) :=
  members.filter fun member => (schema.find? member.1).isNone

theorem addValues_extra (h : addValues schema draft (ofMembers members) = .ok draft') :
    draft'.extra = draft.extra ++ undeclared schema members := by
  induction members generalizing draft with
  | nil =>
      cases h
      simp [undeclared]
  | cons member rest ih =>
      rcases addValues_cons_eq_ok_iff.mp h with ⟨middle, hfirst, hrest⟩
      rcases addValue_eq_ok_iff.mp hfirst with ⟨key, hkey, hadded⟩
      injection hkey with hkey
      subst hkey
      rw [ih hrest]
      cases hadded with
      | declared hfind _ _ =>
          simp [undeclared, hfind, Draft.declare]
      | extra hfind _ =>
          simp [undeclared, hfind, Draft.keep]

theorem addValues_of_accepts (hnodup : (members.map (·.1)).Nodup)
    (htags : forall member, member ∈ members -> member.2.hasTag = false)
    (haccepts : forall member, member ∈ members -> forall entry,
      schema.find? member.1 = some entry ->
        entry.Accepts member.2 ∧ draft.isGiven member.1 = false) :
    exists draft', addValues schema draft (ofMembers members) = .ok draft' := by
  induction members generalizing draft with
  | nil =>
      exact ⟨draft, rfl⟩
  | cons member rest ih =>
      rcases member with ⟨key, value⟩
      rcases List.forall_mem_cons.mp htags with ⟨htag, htags⟩
      rcases List.forall_mem_cons.mp haccepts with ⟨hfirst, hothers⟩
      rcases List.nodup_cons.mp hnodup with ⟨hfresh, hnodup⟩
      have hadded : exists middle, Added schema draft key value middle ∧
          forall other, other ≠ key -> middle.part? other = draft.part? other := by
        cases hfind : schema.find? key with
        | none =>
            exact ⟨_, .extra hfind htag, fun other _ => rfl⟩
        | some entry =>
            rcases hfirst entry hfind with ⟨haccepted, hgiven⟩
            rcases partOf?_of_accepts htag haccepted with ⟨part, hpart⟩
            refine ⟨_, .declared hfind hgiven hpart, ?_⟩
            intro other hother
            rw [Draft.part?_declare, if_neg (Ne.symm hother), Option.or_none]
      rcases hadded with ⟨middle, hadded, hframe⟩
      have hrest : exists draft', addValues schema middle (ofMembers rest) = .ok draft' := by
        apply ih hnodup htags
        intro other hother entry hfind
        rcases hothers other hother entry hfind with ⟨haccepted, hgiven⟩
        have hne : other.1 ≠ key := by
          intro heq
          exact hfresh (List.mem_map.mpr ⟨other, hother, heq⟩)
        refine ⟨haccepted, ?_⟩
        rw [Draft.isGiven, hframe other.1 hne]
        exact hgiven
      rcases hrest with ⟨draft', hrest⟩
      exact ⟨draft', addValues_cons_eq_ok_iff.mpr
        ⟨middle, addValue_eq_ok_iff.mpr ⟨key, rfl, hadded⟩, hrest⟩⟩

theorem untagged_keys :
    forall other, other ∈ ofMembers members -> other.1.isTagged = false := by
  intro other hother
  rcases Value.texts_ofMembers other hother with ⟨k, hk⟩
  rw [hk]
  rfl

/-- What a header holds under a declared key depends on what the key finds among the
members alone. -/
theorem part?_of_members (hfind : schema.find? key = some entry)
    (h : ofEntries schema (ofMembers members) = .ok header) :
    (Keyed.find? key members = none ∧ header.part? key = none ∧
      entry.required = false) ∨
    exists value, Keyed.find? key members = some value ∧
      partOf? entry value = .ok (header.part? key) := by
  rw [<- Value.lookup_ofMembers]
  exact part?_of_ofEntries untagged_keys hfind h

theorem Schema.find?_of_mem (hdistinct : (schema.entries.map (·.key)).Nodup)
    (hentry : entry ∈ schema.entries) : schema.find? entry.key = some entry := by
  cases hfound : schema.find? entry.key with
  | none =>
      exact absurd (beq_self_eq_true entry.key)
        (List.find?_eq_none.mp hfound entry hentry)
  | some other =>
      rcases Schema.mem_of_find? hfound with ⟨hother, hkey⟩
      rw [List.inj_on_of_nodup_map hdistinct hother hentry hkey]

theorem accepts_of_ofEntries (hdistinct : (schema.entries.map (·.key)).Nodup)
    (htags : forall member, member ∈ members -> member.2.hasTag = false)
    (h : ofEntries schema (ofMembers members) = .ok header) :
    schema.Accepts (ofMembers members) := by
  intro entry hentry
  rw [Value.lookup_ofMembers]
  rcases part?_of_members (Schema.find?_of_mem hdistinct hentry) h with
    ⟨hnone, _, hoptional⟩ | ⟨value, hsome, hpart⟩
  · rw [hnone]
    exact hoptional
  · rw [hsome]
    exact accepts_of_partOf? (htags _ (Keyed.mem_of_find? hsome)) hpart

theorem ofEntries_of_accepts (hdistinct : (schema.entries.map (·.key)).Nodup)
    (hmapping : MapsTexts (ofMembers members))
    (haccepts : schema.Accepts (ofMembers members)) :
    exists header, ofEntries schema (ofMembers members) = .ok header := by
  rcases Value.mapsTexts_ofMembers.mp hmapping with ⟨hnodup, hvalues⟩
  have hadded : exists draft, addValues schema {} (ofMembers members) = .ok draft := by
    apply addValues_of_accepts hnodup fun member hmember => (hvalues member hmember).left
    intro member hmember entry hfind
    rcases Schema.mem_of_find? hfind with ⟨hentry, hkey⟩
    have haccepted := haccepts entry hentry
    rw [Value.lookup_ofMembers, hkey,
      (Keyed.find?_eq_some_iff hnodup).mpr hmember] at haccepted
    exact ⟨haccepted, rfl⟩
  rcases hadded with ⟨draft, hadd⟩
  have hgiven : forall entry, entry ∈ schema.entries -> entry.required = true ->
      draft.isGiven entry.key = true := by
    intro entry hentry hneeded
    have hfind := Schema.find?_of_mem hdistinct hentry
    rcases addValues_part?_eq untagged_keys hfind rfl hadd with
      ⟨hlookup, _⟩ | ⟨value, part, _, _, hpart⟩
    · have haccepted := haccepts entry hentry
      rw [hlookup, hneeded] at haccepted
      cases haccepted
    · rw [Draft.isGiven, hpart]
      rfl
  have hrepeated : draft.repeatedKey? = none := by
    rw [Draft.repeatedKey?, addValues_extra hadd, List.findSome?_eq_none_iff]
    intro member hmember
    exact (hvalues member (List.mem_filter.mp hmember).left).right
  exact ⟨_, ofEntries_eq_ok_iff.mpr
    ⟨draft, hadd, Draft.complete_eq_ok_iff.mpr ⟨hgiven, hrepeated, rfl⟩⟩⟩

end Taking

/-!
## Showing a header

What is shown for a declared key is what the key found among the members, unless that
was dropped. What is shown for any other key is what was kept under it.
-/

def shown (header : Header) : List (String × Value) :=
  (header.declared.map fun entry => (entry.1, entry.2.toYaml)) ++ header.extra

theorem toYaml_eq_ofMembers (header : Header) : header.toYaml = ofMembers header.shown := by
  simp [toYaml, ofMembers, shown]

section Showing

variable {schema : Schema} {members : List (String × Value)} {header : Header}
variable {key : String} {value : Value}

theorem extra_of_ofEntries (h : ofEntries schema (ofMembers members) = .ok header) :
    header.extra = Keyed.ofList (undeclared schema members) := by
  rcases ofEntries_eq_ok_iff.mp h with ⟨draft, hadd, hcomplete⟩
  rw [(Draft.complete_eq_ok hcomplete).right.right.left, addValues_extra hadd]
  rfl

theorem declared_of_ofEntries (hdistinct : (schema.entries.map (·.key)).Nodup)
    (h : ofEntries schema (ofMembers members) = .ok header) :
    header.declared = schema.entries.filterMap fun entry =>
      (header.part? entry.key).map fun part => (entry.key, part) := by
  rcases ofEntries_eq_ok_iff.mp h with ⟨draft, hadd, hcomplete⟩
  rcases Draft.complete_eq_ok_iff.mp hcomplete with ⟨_, _, heq⟩
  have hparts := (Draft.complete_eq_ok hcomplete).right.right.right
  rw [congrArg Header.declared heq]
  apply List.filterMap_congr
  intro entry hentry
  rw [hparts entry.key entry (Schema.find?_of_mem hdistinct hentry)]

theorem declared_keys_sublist (held : String -> Option Part) (entries : List Entry) :
    ((entries.filterMap fun entry =>
        (held entry.key).map fun part => (entry.key, part)).map (·.1)).Sublist
      (entries.map (·.key)) := by
  induction entries with
  | nil =>
      exact List.Sublist.slnil
  | cons entry rest ih =>
      cases hheld : held entry.key with
      | none =>
          simpa [hheld] using ih.cons entry.key
      | some part =>
          simpa [hheld] using ih.cons_cons entry.key

theorem undeclared_of_mem_extra (h : ofEntries schema (ofMembers members) = .ok header)
    (hmem : key ∈ header.extra.map (·.1)) : schema.find? key = none := by
  rw [extra_of_ofEntries h] at hmem
  rcases List.mem_map.mp hmem with ⟨member, hmember, hkey⟩
  have hkept := (List.mem_filter.mp (Keyed.mem_ofList hmember)).right
  rw [hkey] at hkept
  exact Option.isNone_iff_eq_none.mp hkept

theorem drops_iff (hdistinct : (schema.entries.map (·.key)).Nodup) {entry : Entry}
    (hfind : schema.find? key = some entry) :
    schema.Drops key value <-> value = .null ∧ entry.required = false := by
  rcases Schema.mem_of_find? hfind with ⟨hentry, hkey⟩
  constructor
  · rintro ⟨hnull, other, hother, hsame, hoptional⟩
    rw [<- hkey] at hsame
    rw [List.inj_on_of_nodup_map hdistinct hother hentry hsame] at hoptional
    exact ⟨hnull, hoptional⟩
  · rintro ⟨hnull, hoptional⟩
    exact ⟨hnull, entry, hentry, hkey, hoptional⟩

theorem not_drops_of_undeclared (hfind : schema.find? key = none) :
    ¬ schema.Drops key value := by
  rintro ⟨_, entry, hentry, hkey, _⟩
  have hne := List.find?_eq_none.mp hfind entry hentry
  simp [hkey] at hne

/-- A key is shown with what it found among the members, unless that is dropped. -/
theorem find?_shown (hdistinct : (schema.entries.map (·.key)).Nodup)
    (hmapping : MapsTexts (ofMembers members))
    (h : ofEntries schema (ofMembers members) = .ok header) :
    Keyed.find? key header.shown = some value <->
      Keyed.find? key members = some value ∧ ¬ schema.Drops key value := by
  rcases Value.mapsTexts_ofMembers.mp hmapping with ⟨hnodup, hvalues⟩
  have hextra : Keyed.find? key header.extra =
      if (schema.find? key).isNone then Keyed.find? key members else none := by
    rw [extra_of_ofEntries h, undeclared,
      Keyed.ofList_filter fun key => (schema.find? key).isNone,
      Keyed.find?_filter fun key => (schema.find? key).isNone,
      Keyed.find?_ofList, Keyed.find?_reverse hnodup]
  have hshown : Keyed.find? key header.shown =
      ((header.part? key).map Part.toYaml).or (Keyed.find? key header.extra) := by
    rw [shown, Keyed.find?_append, Keyed.find?_map]
    rfl
  rw [hshown, hextra]
  cases hfind : schema.find? key with
  | none =>
      have hpart : header.part? key = none := by
        rw [part?, declared_of_ofEntries hdistinct h, Keyed.find?_eq_none_iff]
        intro hmem
        have hdeclared := (declared_keys_sublist header.part? schema.entries).subset hmem
        rcases List.mem_map.mp hdeclared with ⟨entry, hentry, hkey⟩
        have hne := List.find?_eq_none.mp hfind entry hentry
        simp [hkey] at hne
      simp [hpart, not_drops_of_undeclared hfind]
  | some entry =>
      rw [drops_iff hdistinct hfind]
      rcases part?_of_members hfind h with ⟨hnone, hpart, _⟩ | ⟨found, hsome, hpart⟩
      · simp [hnone, hpart]
      · have htag := (hvalues _ (Keyed.mem_of_find? hsome)).left
        simp [hsome, map_toYaml_of_partOf? htag hpart]

theorem drops_of_not_shown (hdistinct : (schema.entries.map (·.key)).Nodup)
    (hmapping : MapsTexts (ofMembers members))
    (h : ofEntries schema (ofMembers members) = .ok header)
    (hshown : Keyed.find? key header.shown = none)
    (hgiven : Keyed.find? key members = some value) : schema.Drops key value := by
  by_contra hkept
  rw [(find?_shown hdistinct hmapping h).mpr ⟨hgiven, hkept⟩] at hshown
  cases hshown

theorem shown_keys_nodup (hdistinct : (schema.entries.map (·.key)).Nodup)
    (h : ofEntries schema (ofMembers members) = .ok header) :
    (header.shown.map (·.1)).Nodup := by
  have hdeclared := declared_keys_sublist header.part? schema.entries
  rw [<- declared_of_ofEntries hdistinct h] at hdeclared
  have hkeys : header.shown.map (·.1) =
      header.declared.map (·.1) ++ header.extra.map (·.1) := by
    simp [shown]
  rw [hkeys, List.nodup_append]
  refine ⟨hdeclared.nodup hdistinct, ?_, ?_⟩
  · rw [extra_of_ofEntries h]
    exact (Keyed.sorted_ofList _).distinct
  · rintro key hkey other hother rfl
    rcases List.mem_map.mp (hdeclared.subset hkey) with ⟨entry, hentry, heq⟩
    have hfind := undeclared_of_mem_extra h hother
    rw [<- heq, Schema.find?_of_mem hdistinct hentry] at hfind
    cases hfind

theorem mapsTexts_shown (hdistinct : (schema.entries.map (·.key)).Nodup)
    (hmapping : MapsTexts (ofMembers members))
    (h : ofEntries schema (ofMembers members) = .ok header) :
    MapsTexts (ofMembers header.shown) := by
  have hnodup := shown_keys_nodup hdistinct h
  apply Value.mapsTexts_ofMembers.mpr
  refine ⟨hnodup, ?_⟩
  rintro ⟨key, value⟩ hmember
  have hfound := (Keyed.find?_eq_some_iff hnodup).mpr hmember
  have hgiven := ((find?_shown hdistinct hmapping h).mp hfound).left
  exact (Value.mapsTexts_ofMembers.mp hmapping).right _ (Keyed.mem_of_find? hgiven)

/-!
## Taking a header from what is shown
-/

theorem accepts_shown (hdistinct : (schema.entries.map (·.key)).Nodup)
    (hmapping : MapsTexts (ofMembers members))
    (h : ofEntries schema (ofMembers members) = .ok header) :
    schema.Accepts (ofMembers header.shown) := by
  intro entry hentry
  rw [Value.lookup_ofMembers]
  have htags := fun member hmember =>
    ((Value.mapsTexts_ofMembers.mp hmapping).right member hmember).left
  have haccepted := accepts_of_ofEntries hdistinct htags h entry hentry
  rw [Value.lookup_ofMembers] at haccepted
  cases hshown : Keyed.find? entry.key header.shown with
  | some value =>
      rw [((find?_shown hdistinct hmapping h).mp hshown).left] at haccepted
      exact haccepted
  | none =>
      cases hgiven : Keyed.find? entry.key members with
      | none =>
          rw [hgiven] at haccepted
          exact haccepted
      | some value =>
          have hdropped := drops_of_not_shown hdistinct hmapping h hshown hgiven
          exact ((drops_iff hdistinct (Schema.find?_of_mem hdistinct hentry)).mp
            hdropped).right

theorem part?_of_shown {header' : Header} {entry : Entry}
    (hdistinct : (schema.entries.map (·.key)).Nodup)
    (hmapping : MapsTexts (ofMembers members))
    (h : ofEntries schema (ofMembers members) = .ok header)
    (h' : ofEntries schema (ofMembers header.shown) = .ok header')
    (hfind : schema.find? key = some entry) : header'.part? key = header.part? key := by
  rcases part?_of_members hfind h' with ⟨hnone, hpart', _⟩ | ⟨value, hsome, hpart'⟩
  · rw [hpart']
    rcases part?_of_members hfind h with ⟨_, hpart, _⟩ | ⟨value, hgiven, hpart⟩
    · rw [hpart]
    · have hdropped := drops_of_not_shown hdistinct hmapping h hnone hgiven
      rcases (drops_iff hdistinct hfind).mp hdropped with ⟨hnull, hoptional⟩
      have hempty : partOf? entry value = .ok none :=
        partOf?_eq_ok_iff.mpr (.inl ⟨hoptional, hnull, rfl⟩)
      rw [hempty] at hpart
      injection hpart
  · have hgiven := ((find?_shown hdistinct hmapping h).mp hsome).left
    rcases part?_of_members hfind h with ⟨hnone, _, _⟩ | ⟨value', hgiven', hpart⟩
    · rw [hnone] at hgiven
      cases hgiven
    · rw [hgiven'] at hgiven
      injection hgiven with hvalue
      rw [<- hvalue, hpart] at hpart'
      injection hpart' with heq
      exact heq.symm

theorem undeclared_shown (hdistinct : (schema.entries.map (·.key)).Nodup)
    (h : ofEntries schema (ofMembers members) = .ok header) :
    undeclared schema header.shown = header.extra := by
  have hdeclared := declared_keys_sublist header.part? schema.entries
  rw [<- declared_of_ofEntries hdistinct h] at hdeclared
  rw [undeclared, shown, List.filter_append]
  have hnone : ((header.declared.map fun entry => (entry.1, entry.2.toYaml)).filter
      fun member => (schema.find? member.1).isNone) = [] := by
    rw [List.filter_eq_nil_iff]
    intro member hmember
    rcases List.mem_map.mp hmember with ⟨held, hheld, heq⟩
    rcases List.mem_map.mp (hdeclared.subset (List.mem_map_of_mem hheld)) with
      ⟨entry, hentry, hkey⟩
    simp [<- heq, <- hkey, Schema.find?_of_mem hdistinct hentry]
  have hall : (header.extra.filter fun member => (schema.find? member.1).isNone) =
      header.extra := by
    rw [List.filter_eq_self]
    intro member hmember
    simp [undeclared_of_mem_extra h (List.mem_map_of_mem hmember)]
  rw [hnone, hall, List.nil_append]

theorem ofEntries_shown (hdistinct : (schema.entries.map (·.key)).Nodup)
    (hmapping : MapsTexts (ofMembers members))
    (h : ofEntries schema (ofMembers members) = .ok header) :
    ofEntries schema (ofMembers header.shown) = .ok header := by
  rcases ofEntries_of_accepts hdistinct (mapsTexts_shown hdistinct hmapping h)
    (accepts_shown hdistinct hmapping h) with ⟨header', h'⟩
  have hdeclared : header'.declared = header.declared := by
    rw [declared_of_ofEntries hdistinct h', declared_of_ofEntries hdistinct h]
    apply List.filterMap_congr
    intro entry hentry
    rw [part?_of_shown hdistinct hmapping h h' (Schema.find?_of_mem hdistinct hentry)]
  have hextra : header'.extra = header.extra := by
    have hsorted : Keyed.Sorted header.extra := by
      rw [extra_of_ofEntries h]
      exact Keyed.sorted_ofList _
    rw [extra_of_ofEntries h', undeclared_shown hdistinct h,
      Keyed.ofList_of_sorted hsorted]
  rw [h']
  cases header
  cases header'
  simp_all

end Showing

/-!
## The schemas of header files
-/

theorem Schema.distinct_of_mem_all {name : String} {schema : Schema}
    (hschema : (name, schema) ∈ Schema.all) : (schema.entries.map (·.key)).Nodup := by
  have hall : forall entry, entry ∈ Schema.all -> (entry.2.entries.map (·.key)).Nodup := by
    decide
  exact hall _ hschema

theorem loadEntries_eq_ok_iff {schema : Schema} {entries : List (Value × Value)}
    {header : Header} :
    loadEntries schema entries = .ok header <-> ofEntries schema entries = .ok header :=
  Outcome.mapError_eq_ok_iff

/--
A mapping from texts is taken as a header of one of the schemas exactly if the schema
accepts it. The header is shown as a mapping that has the same entries, other than
nulls that may be missing, the declared ones first; and the header is taken from it
again.
-/
theorem accepted_and_kept {name : String} {schema : Schema}
    (hschema : (name, schema) ∈ Schema.all) {entries : List (Value × Value)}
    (hmapping : MapsTexts entries) :
    ((exists header, loadEntries schema entries = .ok header) <->
      schema.Accepts entries) ∧
    forall header, loadEntries schema entries = .ok header ->
      MapsTexts header.toYaml ∧
      (forall key value, Value.lookup key header.toYaml = some value <->
        Value.lookup key entries = some value ∧ ¬ schema.Drops key value) ∧
      (exists declared others : List String,
        header.toYaml.map (·.1) = (declared ++ others).map .string ∧
        declared.Sublist (schema.entries.map (·.key)) ∧
        (forall key, key ∈ others -> schema.find? key = none) ∧
        others.Pairwise fun key later => Text.bytes key < Text.bytes later) ∧
      loadEntries schema header.toYaml = .ok header := by
  have hdistinct := Schema.distinct_of_mem_all hschema
  rcases Value.exists_members hmapping.texts with ⟨members, rfl⟩
  simp only [loadEntries_eq_ok_iff, toYaml_eq_ofMembers, Value.lookup_ofMembers]
  constructor
  · constructor
    · rintro ⟨header, h⟩
      exact accepts_of_ofEntries hdistinct (fun member hmember =>
        ((Value.mapsTexts_ofMembers.mp hmapping).right member hmember).left) h
    · exact ofEntries_of_accepts hdistinct hmapping
  · intro header h
    refine ⟨mapsTexts_shown hdistinct hmapping h,
      fun key value => find?_shown hdistinct hmapping h,
      ⟨header.declared.map (·.1), header.extra.map (·.1), ?_, ?_, ?_, ?_⟩,
      ofEntries_shown hdistinct hmapping h⟩
    · simp [ofMembers, shown, Function.comp_def]
    · rw [declared_of_ofEntries hdistinct h]
      exact declared_keys_sublist header.part? schema.entries
    · exact fun key hkey => undeclared_of_mem_extra h hkey
    · rw [extra_of_ofEntries h, List.pairwise_map]
      exact (Keyed.sorted_ofList _).imp fun hless => (Text.lt_iff_bytes_lt _ _).mp hless

/-- An agent with entries out of order, a null, and keys beyond ASCII and beyond texts. -/
def unorderedAgent : List (Value × Value) :=
  [(.string "\u00e9", .number (.integer 1)), (.string "tools", .sequence [.string "Read"]),
    (.string "model", .null), (.string "name", .string ""),
    (.string "a", .mapping [(.null, .bool true), (.string "a", .null)]),
    (.string "description", .string "Reviews")]

theorem accepted_and_kept_unordered :
    MapsTexts unorderedAgent ∧ Schema.agent.Accepts unorderedAgent ∧
      exists header, loadEntries .agent unorderedAgent = .ok header ∧
        header.toYaml.map (·.1) =
          ["name", "description", "tools", "a", "\u00e9"].map .string ∧
        Value.lookup "a" header.toYaml = Value.lookup "a" unorderedAgent ∧
        loadEntries .agent header.toYaml = .ok header := by
  have hmapping : MapsTexts unorderedAgent := by
    constructor
    · simp [unorderedAgent]
    · rfl
    · rfl
  have hload : loadEntries .agent unorderedAgent =
      .ok ⟨[("name", .text ""), ("description", .text "Reviews"),
          ("tools", .tools (.list ["Read"]))],
        [("a", .mapping [(.null, .bool true), (.string "a", .null)]),
          ("\u00e9", .number (.integer 1))]⟩ := by
    rfl
  have hagent : ("agent", Schema.agent) ∈ Schema.all := by
    simp [Schema.all]
  rcases accepted_and_kept hagent hmapping with ⟨haccepted, hkept⟩
  rcases hkept _ hload with ⟨_, _, _, hagain⟩
  exact ⟨hmapping, haccepted.mp ⟨_, hload⟩, _, hload, rfl, rfl, hagain⟩

end Header
end AgentFiles
