import AgentFiles.Check.Manifest
import AgentFiles.Proofs.Verdict
import Mathlib.Data.List.Forall2

/-!
# What the checks of JSON files look at

A check looks at a few positions of a value, and at each of them only whether
something is filled in and of which form it is: a text, an array, an object or
anything else. A member of a value that has no members is missing, and what is
not filled in counts as missing too. Two values with the same forms at these
positions get the same verdict.
-/

namespace AgentFiles
namespace Check

open Json (Value)

/-!
## Forms and positions
-/

/-- What checks tell apart in a value that is filled in. -/
inductive Form where
  | text
  | array
  | object
  | other
deriving DecidableEq, Repr

def formOf : Value -> Form
  | .string _ => .text
  | .array _ => .array
  | .object _ => .object
  | _ => .other

def at? : List String -> Value -> Option Value
  | [], value => some value
  | key :: rest, value => (value.member? key).bind (at? rest)

/-- The value at the end of a path, if there is one and it is filled in. -/
def filledAt? (path : List String) (value : Value) : Option Value :=
  (at? path value).filter Value.isSet

def formAt? (path : List String) (value : Value) : Option Form :=
  (filledAt? path value).map formOf

def SameForms (paths : List (List String)) (v w : Value) : Prop :=
  forall path, path ∈ paths -> formAt? path v = formAt? path w

instance (paths : List (List String)) (v w : Value) :
    Decidable (SameForms paths v w) :=
  inferInstanceAs
    (Decidable (forall path, path ∈ paths -> formAt? path v = formAt? path w))

instance decidableOptionRel {α β : Type} {R : α -> β -> Prop}
    [forall a b, Decidable (R a b)]
    (a? : Option α) (b? : Option β) : Decidable (Option.Rel R a? b?) :=
  match a?, b? with
  | none, none => .isTrue .none
  | some a, some b =>
    decidable_of_iff (R a b)
      ⟨.some, fun hrel => by
        cases hrel with
        | some h =>
            exact h⟩
  | none, some _ => .isFalse fun hrel => by cases hrel
  | some _, none => .isFalse fun hrel => by cases hrel

theorem setMember?_eq (key : String) (value : Value) :
    setMember? key value = filledAt? [key] value := by
  cases hmember : value.member? key <;>
    simp [setMember?, filledAt?, at?, hmember]

theorem member?_of_not_isSet {value : Value} (h : value.isSet = false)
    (key : String) : value.member? key = none := by
  cases value with
  | object members =>
      cases h
  | null | bool | number | string | array =>
      rfl

/-!
## Single checks
-/

def misfits (fits : Value -> Bool) (value? : Option Value) : Bool :=
  (value?.map fun found => !fits found).getD false

theorem shape_eq (key : String) (fits : Value -> Bool) (message : String)
    (value : Value) :
    shape key fits message value =
      .errorIf (misfits fits (filledAt? [key] value)) message := by
  rw [shape, setMember?_eq, misfits]

theorem hasMember_eq (key : String) (value : Value) :
    hasMember key value = (formAt? [key] value).isSome := by
  rw [hasMember, setMember?_eq, formAt?, Option.isSome_map]

theorem ownerHasName_eq (value : Value) :
    ownerHasName value = (formAt? ["owner", "name"] value).isSome := by
  cases howner : value.member? "owner" <;>
    simp [ownerHasName, formAt?, filledAt?, at?, hasMember, setMember?, howner]

theorem isString_eq (value : Value) :
    value.isString = (formOf value == .text) := by
  cases value <;>
    rfl

theorem isArray_eq (value : Value) :
    value.isArray = (formOf value == .array) := by
  cases value <;>
    rfl

theorem isObject_eq (value : Value) :
    value.isObject = (formOf value == .object) := by
  cases value <;>
    rfl

section Congruence

variable {v w : Value}

theorem misfits_congr {fits : Value -> Bool}
    (hfits : forall a b, formOf a = formOf b -> fits a = fits b)
    {path : List String} (h : formAt? path v = formAt? path w) :
    misfits fits (filledAt? path v) = misfits fits (filledAt? path w) := by
  rw [formAt?, formAt?] at h
  cases hv : filledAt? path v with
  | none =>
      rw [hv] at h
      have hw : filledAt? path w = none := by simpa using h.symm
      rw [hw]
  | some a =>
      rw [hv] at h
      rcases Option.map_eq_some_iff.mp h.symm with ⟨b, hw, hform⟩
      rw [hw, misfits, misfits, Option.map_some, Option.map_some,
        hfits a b hform.symm]

theorem shape_congr {key : String} {fits : Value -> Bool}
    (hfits : forall a b, formOf a = formOf b -> fits a = fits b)
    (message : String) (h : formAt? [key] v = formAt? [key] w) :
    shape key fits message v = shape key fits message w := by
  rw [shape_eq, shape_eq, misfits_congr hfits h]

theorem isArray_congr (a b : Value) (h : formOf a = formOf b) :
    a.isArray = b.isArray := by
  rw [isArray_eq, isArray_eq, h]

theorem each_congr {α : Type} {check check' : α -> Verdict} {items : List α}
    (h : forall item, item ∈ items -> check item = check' item) :
    each check items = each check' items := by
  induction items with
  | nil =>
      rfl
  | cons item rest ih =>
      rw [each, each, h item List.mem_cons_self,
        ih fun other hother => h other (List.mem_cons_of_mem _ hother)]

/-!
## Settings and plugins
-/

theorem permissions_eq (value : Value) :
    ((setMember? "permissions" value).map permissions).getD .empty =
      each
        (fun key =>
          .errorIf (misfits Value.isArray (filledAt? ["permissions", key] value))
            s!"permissions.{key} must be an array")
        ["allow", "deny"] := by
  cases hmember : value.member? "permissions" with
  | none =>
      have hnone : forall key,
          filledAt? ["permissions", key] value = none := by
        intro key
        simp [filledAt?, at?, hmember]
      simp only [setMember?, hmember, hnone]
      rfl
  | some inner =>
      cases hset : inner.isSet with
      | true =>
          have hinner : forall key,
              filledAt? [key] inner = filledAt? ["permissions", key] value := by
            intro key
            simp [filledAt?, at?, hmember]
          have hsome : setMember? "permissions" value = some inner := by
            rw [setMember?, hmember, Option.filter_some, if_pos hset]
          rw [hsome, Option.map_some, Option.getD_some, permissions]
          simp only [shape_eq, hinner]
      | false =>
          have hnone : forall key,
              filledAt? ["permissions", key] value = none := by
            intro key
            simp [filledAt?, at?, hmember, member?_of_not_isSet hset key]
          simp only [setMember?, hmember, Option.filter_some, hset, hnone]
          rfl

def settingsPaths : List (List String) :=
  [["model"], ["permissions", "allow"], ["permissions", "deny"], ["env"]]

theorem settingsValue_congr (h : SameForms settingsPaths v w) :
    settingsValue v = settingsValue w := by
  have hmodel := h ["model"] (by decide)
  have henv := h ["env"] (by decide)
  have hpermissions : forall key, key ∈ ["allow", "deny"] ->
      formAt? ["permissions", key] v = formAt? ["permissions", key] w := by
    intro key hkey
    apply h
    revert key
    decide
  rw [settingsValue, settingsValue, permissions_eq, permissions_eq,
    shape_congr (fun a b hform => by rw [isString_eq, isString_eq, hform]) _
      hmodel,
    shape_congr
      (fun a b hform => by
        rw [isObject_eq, isObject_eq, isArray_eq, isArray_eq, hform]) _ henv,
    each_congr fun key hkey => by
      rw [misfits_congr isArray_congr (hpermissions key hkey)]]

def pluginPaths : List (List String) :=
  [["name"], ["version"], ["description"], ["commands"], ["agents"],
    ["skills"]]

theorem pluginValue_congr (h : SameForms pluginPaths v w) :
    pluginValue v = pluginValue w := by
  have hkey : forall key,
      key ∈ ["name", "version", "description"] ++
        ["commands", "agents", "skills"] ->
      formAt? [key] v = formAt? [key] w := by
    intro key hkey
    apply h
    revert key
    decide
  rw [pluginValue, pluginValue]
  congr 1
  · apply each_congr
    intro key hmem
    rw [hasMember_eq, hasMember_eq, hkey key (List.mem_append_left _ hmem)]
  · apply each_congr
    intro key hmem
    exact shape_congr isArray_congr _ (hkey key (List.mem_append_right _ hmem))

/-!
## Marketplaces
-/

def marketplacePaths : List (List String) :=
  [["name"], ["owner", "name"]]

def listingPaths : List (List String) :=
  [["name"], ["source"], ["description"]]

def isNull : Value -> Bool
  | .null => true
  | _ => false

theorem isNull_iff (value : Value) : isNull value = true <-> value = .null := by
  cases value <;>
    simp [isNull]

theorem ne_null_of_isNull {value : Value} (h : isNull value = false) :
    value ≠ .null := by
  intro hnull
  rw [hnull] at h
  cases h

/-- Two items of a list of plugins that are looked at alike. -/
def SameListing (v w : Value) : Prop :=
  isNull v = isNull w ∧ SameForms listingPaths v w

instance (v w : Value) : Decidable (SameListing v w) :=
  inferInstanceAs (Decidable (_ ∧ _))

def pluginItems? (value : Value) : Option (List Value) :=
  match value.member? "plugins" with
  | some (.array items) => some items
  | _ => none

/-- No list of plugins on either side, or two lists with items that are looked at alike. -/
def SameListings (v w : Value) : Prop :=
  Option.Rel (List.Forall₂ SameListing) (pluginItems? v) (pluginItems? w)

instance (v w : Value) : Decidable (SameListings v w) :=
  inferInstanceAs (Decidable (Option.Rel _ _ _))

theorem listing_congr (index : Nat) (h : SameForms listingPaths v w) :
    listing index v = listing index w := by
  rw [listing, listing, hasMember_eq, hasMember_eq, hasMember_eq, hasMember_eq,
    hasMember_eq, hasMember_eq, h ["name"] (by decide), h ["source"] (by decide),
    h ["description"] (by decide)]

theorem listings_cons {value : Value} (hvalue : isNull value = false)
    (index : Nat) (rest : List Value) :
    listings index (value :: rest) =
      listing index value ++ listings (index + 1) rest := by
  cases value with
  | null =>
      cases hvalue
  | bool | number | string | array | object =>
      rfl

theorem listings_congr {items items' : List Value}
    (h : List.Forall₂ SameListing items items') (index : Nat) :
    listings index items = listings index items' := by
  induction h generalizing index with
  | nil =>
      rfl
  | cons hfirst hrest ih =>
      rename_i a b rest rest'
      cases ha : isNull a with
      | true =>
          have hb : isNull b = true := by rw [<- hfirst.left, ha]
          rw [(isNull_iff a).mp ha, (isNull_iff b).mp hb]
          rfl
      | false =>
          have hb : isNull b = false := by rw [<- hfirst.left, ha]
          rw [listings_cons ha, listings_cons hb,
            listing_congr index hfirst.right, ih (index + 1)]

def listingsFinding : Option (List Value) -> Verdict
  | some items => listings 0 items
  | none => .failure "Marketplace plugins array is required"

theorem listingsMember_eq (value : Value) :
    listingsMember value = listingsFinding (pluginItems? value) := by
  rw [listingsMember, pluginItems?]
  cases hmember : value.member? "plugins" with
  | none =>
      rfl
  | some plugins =>
      cases plugins <;>
        rfl

theorem listingsFinding_congr {items? items'? : Option (List Value)}
    (h : Option.Rel (List.Forall₂ SameListing) items? items'?) :
    listingsFinding items? = listingsFinding items'? := by
  cases h with
  | none =>
      rfl
  | some hitems =>
      exact listings_congr hitems 0

theorem marketplaceValue_congr (h : SameForms marketplacePaths v w)
    (hlistings : SameListings v w) :
    marketplaceValue v = marketplaceValue w := by
  rw [marketplaceValue, marketplaceValue, hasMember_eq, hasMember_eq,
    ownerHasName_eq, ownerHasName_eq, h ["name"] (by decide),
    h ["owner", "name"] (by decide), listingsMember_eq, listingsMember_eq,
    listingsFinding_congr hlistings]

end Congruence

/-!
## Values without members
-/

theorem member?_of_no_members {value : Value} (h : value.isObject = false)
    (key : String) : value.member? key = none := by
  cases value with
  | object members =>
      cases h
  | null | bool | number | string | array =>
      rfl

theorem formAt?_of_no_member {value : Value} {key : String}
    (h : value.member? key = none) (rest : List String) :
    formAt? (key :: rest) value = none := by
  simp [formAt?, filledAt?, at?, h]

theorem pluginItems?_of_no_member {value : Value}
    (h : value.member? "plugins" = none) : pluginItems? value = none := by
  rw [pluginItems?, h]

theorem whole_eq {content : String} {value : Value}
    (hcontent : Value.ofText content = .ok value) (hvalue : value ≠ .null)
    (check : Value -> Verdict) : whole check content = check value := by
  cases value with
  | null =>
      exact absurd rfl hvalue
  | bool | number | string | array | object =>
      simp only [whole, hcontent]

end Check
end AgentFiles
