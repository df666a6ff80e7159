import AgentFiles.Proofs.Json.Agreement
import AgentFiles.Proofs.Json.Schemas
import Mathlib.Data.List.Nodup

/-!
# Unknown members are kept

A record that keeps extra members divides the members of an object by their keys.
What has the key of a field is read by the field, and the last of everything else
under one key is kept as it is. A field that was given is written again, unless it was
given as null where it may be missing, so that the keys that are written are those of
the object without such nulls.
-/

namespace AgentFiles
namespace Json

variable {R α : Type}

/-!
## Fields
-/

namespace Field

/-- Null in the place of a field that may be missing is not written again. -/
def Drops (field : Field R) (value : Value) : Prop :=
  field.required = false ∧ value = .null

/-- The field is written if it was given, unless what was given is dropped. -/
def WritesGiven (field : Field R) (blank : R) : Prop :=
  forall depth r value?, field.Agrees depth blank r value? ->
    ((field.write r).isSome = true <->
      exists value, value? = some value ∧ ¬ field.Drops value)

section Kinds

variable {key : String} {codec : Codec α} {blank : R} [hcodec : codec.Faithful]

@[simp]
theorem writesGiven_mandatory {get : R -> α} {set : α -> R -> R}
    (hget : forall a r, get (set a r) = a) :
    (mandatory key codec get set).WritesGiven blank := by
  intro depth r value? hagrees
  rcases mandatory_agrees hget hagrees with ⟨value, hvalue, _⟩
  constructor
  · intro _
    refine ⟨value, hvalue, ?_⟩
    rintro ⟨hrequired, _⟩
    cases hrequired
  · intro _
    rfl

@[simp]
theorem writesGiven_optional {get : R -> Option α} {set : Option α -> R -> R}
    (hget : forall a? r, get (set a? r) = a?) (hblank : get blank = none) :
    (optional key codec get set).WritesGiven blank := by
  intro depth r value? hagrees
  have hwrite : ((optional key codec get set).write r).isSome = (get r).isSome :=
    Option.isSome_map
  rw [hwrite]
  rcases optional_agrees hget hblank hagrees with
    ⟨hmissing, hnone⟩ | ⟨a, value, hvalue, hnull, hsome, _⟩
  · rw [hnone]
    constructor
    · intro hwritten
      cases hwritten
    · rintro ⟨value, hvalue, hkept⟩
      rcases hmissing with hmissing | hmissing
      · rw [hmissing] at hvalue
        cases hvalue
      · rw [hmissing] at hvalue
        injection hvalue with hvalue
        exact absurd ⟨rfl, hvalue.symm⟩ hkept
  · rw [hsome]
    constructor
    · intro _
      exact ⟨value, hvalue, fun hdrops => hnull hdrops.right⟩
    · intro _
      rfl

end Kinds

end Field

/-!
## Records
-/

namespace Record

variable {record : Record R} {members extra : List (String × Value)} {key : String}

def keys (record : Record R) : List String :=
  record.fields.map (·.key)

theorem field?_eq_none_iff : record.field? key = none <-> key ∉ record.keys := by
  simp [field?, keys]

def Drops (record : Record R) (key : String) (value : Value) : Prop :=
  exists field, field ∈ record.fields ∧ field.key = key ∧ field.Drops value

/-- The members under unknown keys are the extra members. What is written has the keys
of all members but those that are dropped, each of them once. -/
structure Preserves (record : Record R) (members extra : List (String × Value))
    (written : Value) : Prop where
  extra_eq : extra = members.filter fun member => decide (member.1 ∉ record.keys)
  undeclared : forall key, key ∈ record.keys -> key ∉ extra.map (·.1)
  written : exists shown, written = .object shown ∧ (shown.map (·.1)).Nodup ∧
    forall key, key ∈ shown.map (·.1) <->
      exists value, Keyed.find? key members = some value ∧ ¬ record.Drops key value

theorem not_drops_of_undeclared {value : Value} (hkey : key ∉ record.keys) :
    ¬ record.Drops key value := by
  rintro ⟨field, hfield, rfl, _⟩
  exact hkey (List.mem_map_of_mem hfield)

theorem undeclared_eq :
    record.undeclared members =
      members.filter fun member => decide (member.1 ∉ record.keys) := by
  apply List.filter_congr
  intro member _
  rw [Bool.eq_iff_iff, Option.isNone_iff_eq_none, field?_eq_none_iff, decide_eq_true_iff]

theorem mem_keys_undeclared_iff :
    key ∈ (record.undeclared members).map (·.1) <->
      key ∉ record.keys ∧ key ∈ members.map (·.1) := by
  rw [undeclared_eq]
  simp [and_comm]

theorem keys_writeMembers (r : R) :
    (record.writeMembers r).map (·.1) =
      (record.fields.filter fun field => (field.write r).isSome).map (·.key) := by
  rw [writeMembers]
  induction record.fields with
  | nil =>
      rfl
  | cons field fields ih =>
      cases hwrite : field.write r with
      | none =>
          simp [hwrite, ih]
      | some value =>
          simp [hwrite, ih]

theorem mem_keys_writeMembers_iff {r : R} :
    key ∈ (record.writeMembers r).map (·.1) <->
      exists field, field ∈ record.fields ∧ (field.write r).isSome = true ∧
        field.key = key := by
  simp [keys_writeMembers, and_assoc]

section Agrees

variable {depth : Nat} {r : R}

theorem drops_iff (hapart : record.fields.Pairwise Field.Apart) {field : Field R}
    (hfield : field ∈ record.fields) {value : Value} :
    record.Drops field.key value <-> field.Drops value := by
  constructor
  · rintro ⟨other, hother, hkey, hdrops⟩
    rw [<- eq_of_key hapart hfield hother hkey]
    exact hdrops
  · intro hdrops
    exact ⟨field, hfield, rfl, hdrops⟩

theorem written_iff_given (hapart : record.fields.Pairwise Field.Apart)
    (hwrites : forall field, field ∈ record.fields -> field.WritesGiven record.blank)
    (hagrees : record.Agrees depth r members) (hdeclared : key ∈ record.keys) :
    key ∈ (record.writeMembers r).map (·.1) <->
      exists value, Keyed.find? key members = some value ∧ ¬ record.Drops key value := by
  rcases List.mem_map.mp hdeclared with ⟨field, hfield, rfl⟩
  have hwritten : field.key ∈ (record.writeMembers r).map (·.1) <->
      (field.write r).isSome = true := by
    rw [mem_keys_writeMembers_iff]
    constructor
    · rintro ⟨other, hother, hsome, hkey⟩
      rw [<- eq_of_key hapart hfield hother hkey]
      exact hsome
    · intro hsome
      exact ⟨field, hfield, hsome, rfl⟩
  simp only [drops_iff hapart hfield]
  rw [hwritten]
  exact hwrites field hfield depth r _ (hagrees field hfield)

theorem nodup_keys (hapart : record.fields.Pairwise Field.Apart) : record.keys.Nodup :=
  List.pairwise_map.mpr (hapart.imp fun h => h.keys)

theorem preserves_of_agrees (hapart : record.fields.Pairwise Field.Apart)
    (hwrites : forall field, field ∈ record.fields -> field.WritesGiven record.blank)
    (hsorted : Keyed.Sorted members) (hagrees : record.Agrees depth r members)
    (hextra : extra = record.undeclared members) :
    record.Preserves members extra (.object (record.writeMembers r ++ extra)) := by
  have hdeclared : forall key, key ∈ (record.writeMembers r).map (·.1) ->
      key ∈ record.keys := by
    intro key hkey
    rcases mem_keys_writeMembers_iff.mp hkey with ⟨field, hfield, _, rfl⟩
    exact List.mem_map_of_mem hfield
  have hothers : forall key, key ∈ record.keys -> key ∉ extra.map (·.1) := by
    intro key hkey hmem
    rw [hextra, mem_keys_undeclared_iff] at hmem
    exact hmem.left hkey
  refine ⟨hextra.trans undeclared_eq, hothers, _, rfl, ?_, ?_⟩
  · rw [List.map_append]
    apply List.Nodup.append
    · rw [keys_writeMembers]
      exact (nodup_keys hapart).sublist (List.filter_sublist.map _)
    · rw [hextra]
      exact Keyed.Sorted.distinct (hsorted.filter _)
    · exact fun key hwritten hkept => hothers key (hdeclared key hwritten) hkept
  · intro key
    rw [List.map_append, List.mem_append]
    -- A declared key can only come from its field, any other only from the extra members.
    by_cases hkey : key ∈ record.keys
    · rw [or_iff_left (hothers key hkey)]
      exact written_iff_given hapart hwrites hagrees hkey
    · rw [or_iff_right fun hwritten => hkey (hdeclared key hwritten), hextra,
        mem_keys_undeclared_iff, and_iff_right hkey, Keyed.mem_keys_iff]
      simp only [not_drops_of_undeclared hkey, not_false_eq_true, and_true]

end Agrees

theorem preserves_of_loadJson {content : String} {r : R}
    {extra : R -> List (String × Value)} {setExtra : List (String × Value) -> R -> R}
    (hlawful : forall depth, record.Lawful depth) (hholds : record.HoldsExtra extra setExtra)
    (hwrites : forall field, field ∈ record.fields -> field.WritesGiven record.blank)
    (hload : loadJson (record.codecWithExtra extra setExtra) content = .ok r)
    (hcontent : Value.ofText content = .ok (.object members)) :
    record.Preserves members (extra r)
      ((record.codecWithExtra extra setExtra).write r) := by
  rcases codecWithExtra_agrees hlawful hholds (Codec.agrees_of_load hload hcontent) with
    ⟨inner, members', heq, hsorted, hagrees, hextra⟩
  injection heq with heq
  subst heq
  exact preserves_of_agrees (hlawful 0).apart hwrites hsorted hagrees hextra

end Record
end Json

open Json

/-!
## Manifests and settings
-/

/-- Settings, plugins and marketplaces that are loaded from an object keep its unknown
members. -/
theorem unknown_members_kept {content : String} {members : List (String × Value)}
    (hcontent : Value.ofText content = .ok (.object members)) :
    (forall settings : Settings, loadJson Settings.codec content = .ok settings ->
      Settings.record.Preserves members settings.extra (Settings.codec.write settings)) ∧
    (forall plugin : Plugin, loadJson Plugin.codec content = .ok plugin ->
      Plugin.record.Preserves members plugin.extra (Plugin.codec.write plugin)) ∧
    (forall catalog : Marketplace, loadJson Marketplace.codec content = .ok catalog ->
      Marketplace.record.Preserves members catalog.extra
        (Marketplace.codec.write catalog)) := by
  refine ⟨?_, ?_, ?_⟩
  · intro settings hload
    exact Record.preserves_of_loadJson Settings.lawful Settings.holdsExtra
      (by simp [Settings.record]) hload hcontent
  · intro plugin hload
    exact Record.preserves_of_loadJson Plugin.lawful Plugin.holdsExtra
      (by simp [Plugin.record]) hload hcontent
  · intro catalog hload
    exact Record.preserves_of_loadJson Marketplace.lawful Marketplace.holdsExtra
      (by simp [Marketplace.record]) hload hcontent

/-- An object that all three schemas accept. It has an unknown key twice, a key that differs
from a declared one in its first letter, and nulls under declared and unknown keys. -/
def manySided : String :=
  "\x7b\"owner\":\x7b\"name\":\"o\"\x7d,\"x\":1,\"version\":\"1\",\"strict\":null," ++
    "\"model\":null,\"name\":\"n\",\"Model\":[],\"plugins\":[],\"x\":null," ++
      "\"description\":\"d\"\x7d"

theorem unknown_members_kept_many_sided :
    exists members settings plugin catalog,
      Value.ofText manySided = .ok (.object members) ∧
      (loadJson Settings.codec manySided = .ok settings ∧
        settings.extra.map (·.1) = ["Model", "description", "name", "owner", "plugins",
          "strict", "version", "x"] ∧
        Settings.record.Preserves members settings.extra
          (Settings.codec.write settings)) ∧
      (loadJson Plugin.codec manySided = .ok plugin ∧
        plugin.extra.map (·.1) = ["Model", "model", "owner", "plugins", "x"] ∧
        Plugin.record.Preserves members plugin.extra (Plugin.codec.write plugin)) ∧
      (loadJson Marketplace.codec manySided = .ok catalog ∧
        catalog.extra.map (·.1) = ["Model", "model", "strict", "x"] ∧
        Marketplace.record.Preserves members catalog.extra
          (Marketplace.codec.write catalog)) := by
  have hobject : ((Value.ofText manySided).toOption.any Value.isObject) = true := by
    decide +kernel
  have hsettings :
      ((loadJson Settings.codec manySided).toOption.any fun settings =>
        decide (settings.extra.map (·.1) = ["Model", "description", "name", "owner",
          "plugins", "strict", "version", "x"])) = true := by
    decide +kernel
  have hplugin :
      ((loadJson Plugin.codec manySided).toOption.any fun plugin =>
        decide (plugin.extra.map (·.1) =
          ["Model", "model", "owner", "plugins", "x"])) = true := by
    decide +kernel
  have hcatalog :
      ((loadJson Marketplace.codec manySided).toOption.any fun catalog =>
        decide (catalog.extra.map (·.1) = ["Model", "model", "strict", "x"])) = true := by
    decide +kernel
  rcases (Option.any_eq_true _ _).mp hobject with ⟨value, hvalue, hmembers⟩
  rcases Value.isObject_iff.mp hmembers with ⟨members, rfl⟩
  rcases (Option.any_eq_true _ _).mp hsettings with ⟨settings, hs, hskeys⟩
  rcases (Option.any_eq_true _ _).mp hplugin with ⟨plugin, hp, hpkeys⟩
  rcases (Option.any_eq_true _ _).mp hcatalog with ⟨catalog, hc, hckeys⟩
  have hcontent := Outcome.toOption_eq_some_iff.mp hvalue
  have hs := Outcome.toOption_eq_some_iff.mp hs
  have hp := Outcome.toOption_eq_some_iff.mp hp
  have hc := Outcome.toOption_eq_some_iff.mp hc
  rcases unknown_members_kept hcontent with ⟨hsettings, hplugin, hcatalog⟩
  exact ⟨members, settings, plugin, catalog, hcontent,
    ⟨hs, of_decide_eq_true hskeys, hsettings settings hs⟩,
    ⟨hp, of_decide_eq_true hpkeys, hplugin plugin hp⟩,
    ⟨hc, of_decide_eq_true hckeys, hcatalog catalog hc⟩⟩

end AgentFiles
