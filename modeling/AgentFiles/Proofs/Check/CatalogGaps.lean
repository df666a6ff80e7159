import AgentFiles.Proofs.Check.Forms
import AgentFiles.Proofs.Outcome
import AgentFiles.Proofs.Text.Decimal
import Mathlib.Data.List.Nodup

/-!
# Gaps in a catalog

A gap is a position that has to be filled in and is not. The check of a catalog lists
the gaps at its top, then those of one plugin after the other, each with the index of
the plugin, and it stops at the first null among the plugins. The index can be read off
the message, so that no message is given twice.
-/

namespace AgentFiles
namespace Check

open Json (Value)

/-- A message about a position that is not filled in. -/
def gapAt (path : List String) (message : String) (value : Value) : List String :=
  if (filledAt? path value).isSome then [] else [message]

def lacking (index : Nat) (key : String) : String :=
  s!"Plugin at index {index} is missing {key}"

def listingGaps (keys : List String) (index : Nat) (value : Value) : List String :=
  keys.flatMap fun key => gapAt [key] (lacking index key) value

/-- The gaps at some members of each plugin, where the plugins are numbered from an index on. -/
def gapsFrom (keys : List String) (index : Nat) (items : List Value) : List String :=
  (items.zipIdx index).flatMap fun entry => listingGaps keys entry.2 entry.1

def beforeNull (items : List Value) : List Value :=
  items.take (items.findIdx isNull)

/-- The error about a null among the plugins. -/
def nullErrors (items : List Value) : List String :=
  if items.findIdx isNull < items.length then [invalidJson] else []

/-!
## Single gaps
-/

theorem isSome_filledAt? (path : List String) (value : Value) :
    (filledAt? path value).isSome = (formAt? path value).isSome := by
  rw [formAt?, Option.isSome_map]

theorem errorIf_gap (path : List String) (message : String) (value : Value) :
    Verdict.errorIf (!(formAt? path value).isSome) message =
      ⟨gapAt path message value, []⟩ := by
  rw [gapAt, isSome_filledAt?, Verdict.errorIf_eq]
  cases (formAt? path value).isSome <;>
    rfl

theorem warningIf_gap (path : List String) (message : String) (value : Value) :
    Verdict.warningIf (!(formAt? path value).isSome) message =
      ⟨[], gapAt path message value⟩ := by
  rw [gapAt, isSome_filledAt?, Verdict.warningIf_eq]
  cases (formAt? path value).isSome <;>
    rfl

theorem gapAt_congr {path : List String} {v w : Value}
    (h : formAt? path v = formAt? path w) (message : String) :
    gapAt path message v = gapAt path message w := by
  rw [gapAt, gapAt, isSome_filledAt?, isSome_filledAt?, h]

theorem sublist_gapAt (path : List String) (message : String) (value : Value) :
    (gapAt path message value).Sublist [message] := by
  rw [gapAt]
  split
  · exact List.nil_sublist _
  · exact List.Sublist.refl _

theorem eq_of_mem_gapAt {path : List String} {message found : String} {value : Value}
    (h : found ∈ gapAt path message value) : found = message :=
  List.mem_singleton.mp ((sublist_gapAt path message value).subset h)

/-!
## Messages about plugins
-/

theorem lacking_eq {key ending : String} (h : ending = " is missing " ++ key)
    (index : Nat) : s!"Plugin at index {index}" ++ ending = lacking index key := by
  subst h
  exact (String.append_assoc ..).symm

theorem toList_lacking (index : Nat) (key : String) :
    (lacking index key).toList =
      "Plugin at index ".toList ++
        (Nat.toDigits 10 index ++ ' ' :: ("is missing ".toList ++ key.toList)) := by
  have hindex : (toString index).toList = Nat.toDigits 10 index :=
    (congrArg String.toList Nat.repr_eq_ofList_toDigits).trans String.toList_ofList
  unfold lacking
  simp only [String.toList_append, List.append_assoc, hindex]
  rfl

/-- The digits of the index end at the blank behind them. -/
theorem lacking_injective {index index' : Nat} {key key' : String}
    (h : lacking index key = lacking index' key') : index = index' ∧ key = key' := by
  have htexts := congrArg String.toList h
  rw [toList_lacking, toList_lacking, List.append_cancel_left_eq] at htexts
  have hdigits := congrArg (List.takeWhile Text.isDigit) htexts
  have hends : forall n (rest : List Char),
      (Nat.toDigits 10 n ++ ' ' :: rest).takeWhile Text.isDigit = Nat.toDigits 10 n := by
    intro n rest
    apply Text.takeWhile_isDigit_append fun c hc => Text.isDigit_of_mem_toDigits hc
    intro c hc
    cases hc
    decide
  rw [hends, hends] at hdigits
  have hindex := congrArg Text.natOf hdigits
  rw [Text.natOf_toDigits, Text.natOf_toDigits] at hindex
  subst hindex
  refine ⟨rfl, String.toList_inj.mp ?_⟩
  simpa using htexts

theorem head?_lacking (index : Nat) (key : String) :
    (lacking index key).toList.head? = some 'P' := by
  rw [toList_lacking]
  rfl

/-!
## Plugins
-/

section Listings

variable {keys : List String} {items : List Value}

theorem mem_listingGaps {index : Nat} {value : Value} {message : String}
    (h : message ∈ listingGaps keys index value) :
    exists key, key ∈ keys ∧ message = lacking index key := by
  rcases List.mem_flatMap.mp h with ⟨key, hkey, hmem⟩
  exact ⟨key, hkey, eq_of_mem_gapAt hmem⟩

theorem mem_gapsFrom {index : Nat} {message : String}
    (h : message ∈ gapsFrom keys index items) :
    exists other key, index ≤ other ∧ key ∈ keys ∧ message = lacking other key := by
  rcases List.mem_flatMap.mp h with ⟨entry, hentry, hmem⟩
  rcases mem_listingGaps hmem with ⟨key, hkey, hmessage⟩
  exact ⟨entry.2, key, List.le_snd_of_mem_zipIdx hentry, hkey, hmessage⟩

theorem gapsFrom_cons (index : Nat) (value : Value) (rest : List Value) :
    gapsFrom keys index (value :: rest) =
      listingGaps keys index value ++ gapsFrom keys (index + 1) rest := by
  rw [gapsFrom, List.zipIdx_cons, List.flatMap_cons]
  rfl

theorem nodup_listingGaps (hkeys : keys.Nodup) (index : Nat) (value : Value) :
    (listingGaps keys index value).Nodup := by
  refine List.nodup_flatMap.mpr ⟨?_, hkeys.imp ?_⟩
  · intro key _
    exact (List.nodup_singleton _).sublist (sublist_gapAt _ _ value)
  · intro key key' hne message hmem hmem'
    have hsame := (eq_of_mem_gapAt hmem).symm.trans (eq_of_mem_gapAt hmem')
    exact hne (lacking_injective hsame).right

/-- No two plugins have a message in common, as their indices differ. -/
theorem nodup_gapsFrom (hkeys : keys.Nodup) (index : Nat) :
    (gapsFrom keys index items).Nodup := by
  induction items generalizing index with
  | nil =>
      exact List.nodup_nil
  | cons value rest ih =>
      rw [gapsFrom_cons]
      refine List.nodup_append.mpr
        ⟨nodup_listingGaps hkeys index value, ih (index + 1), ?_⟩
      rintro message hmem _ hmem' rfl
      rcases mem_listingGaps hmem with ⟨key, _, rfl⟩
      rcases mem_gapsFrom hmem' with ⟨other, key', hother, _, hmessage⟩
      have hindex := (lacking_injective hmessage).left
      omega

end Listings

theorem listing_eq_gaps (index : Nat) (value : Value) :
    listing index value =
      ⟨listingGaps ["name", "source"] index value,
        listingGaps ["description"] index value⟩ := by
  have hname : s!"Plugin at index {index} is missing name" = lacking index "name" :=
    lacking_eq (show " is missing name" = " is missing " ++ "name" from rfl) index
  have hsource : s!"Plugin at index {index} is missing source" = lacking index "source" :=
    lacking_eq (show " is missing source" = " is missing " ++ "source" from rfl) index
  have hdescription :
      s!"Plugin at index {index} is missing description" = lacking index "description" :=
    lacking_eq (show " is missing description" = " is missing " ++ "description" from rfl)
      index
  rw [listing, hname, hsource, hdescription, hasMember_eq, hasMember_eq, hasMember_eq,
    errorIf_gap, errorIf_gap, warningIf_gap, Verdict.mk_append_mk, Verdict.mk_append_mk]
  simp only [listingGaps, List.flatMap_cons, List.flatMap_nil, List.append_nil,
    List.nil_append]

theorem listings_eq_gaps (index : Nat) (items : List Value) :
    listings index items =
      ⟨gapsFrom ["name", "source"] index (beforeNull items) ++ nullErrors items,
        gapsFrom ["description"] index (beforeNull items)⟩ := by
  induction items generalizing index with
  | nil =>
      rfl
  | cons value rest ih =>
      rw [nullErrors, beforeNull, List.findIdx_cons]
      cases hnull : isNull value with
      | true =>
          rw [(isNull_iff value).mp hnull]
          simp [listings, gapsFrom, Verdict.failure]
      | false =>
          rw [listings_cons hnull, listing_eq_gaps, ih (index + 1), Verdict.mk_append_mk]
          simp only [cond_false, List.take_succ_cons, List.length_cons,
            Nat.add_lt_add_iff_right, gapsFrom_cons, beforeNull, nullErrors, List.append_assoc]

/-!
## Catalogs
-/

section Catalogs

variable {content : String} {value : Value} {items : List Value}

theorem member?_of_pluginItems? (h : pluginItems? value = some items) :
    value.member? "plugins" = some (.array items) := by
  rw [pluginItems?] at h
  split at h
  · rename_i hmember
    cases h
    exact hmember
  · cases h

def catalogErrors (value : Value) (items : List Value) : List String :=
  gapAt ["name"] "Marketplace name is required" value ++
    gapAt ["owner", "name"] "Marketplace owner name is required" value ++
      gapsFrom ["name", "source"] 0 (beforeNull items) ++ nullErrors items

theorem marketplace_of_items (hcontent : Value.ofText content = .ok value)
    (hitems : value.member? "plugins" = some (.array items)) :
    marketplace content =
      ⟨gapAt ["name"] "Marketplace name is required" value, []⟩ ++
        ⟨gapAt ["owner", "name"] "Marketplace owner name is required" value, []⟩ ++
          listings 0 items := by
  have hvalue : value ≠ .null := by
    rintro rfl
    cases hitems
  rw [marketplace, whole_eq hcontent hvalue, marketplaceValue, hasMember_eq,
    ownerHasName_eq, errorIf_gap, errorIf_gap, listingsMember, hitems]

theorem marketplace_eq_gaps (hcontent : Value.ofText content = .ok value)
    (hitems : value.member? "plugins" = some (.array items)) :
    marketplace content =
      ⟨catalogErrors value items, gapsFrom ["description"] 0 (beforeNull items)⟩ := by
  rw [marketplace_of_items hcontent hitems]
  simp only [listings_eq_gaps, Verdict.mk_append_mk, List.nil_append, catalogErrors,
    List.append_assoc]

def generalMessages : List String :=
  ["Marketplace name is required", "Marketplace owner name is required", invalidJson]

theorem nodup_generalMessages : generalMessages.Nodup := by
  decide

theorem lacking_not_mem_generalMessages (index : Nat) (key : String) :
    lacking index key ∉ generalMessages := by
  intro hmem
  have hheads : forall message, message ∈ generalMessages ->
      message.toList.head? ≠ some 'P' := by
    decide
  exact hheads _ hmem (head?_lacking index key)

theorem sublist_generalMessages (value : Value) (items : List Value) :
    (gapAt ["name"] "Marketplace name is required" value ++
      gapAt ["owner", "name"] "Marketplace owner name is required" value ++
        nullErrors items).Sublist generalMessages := by
  refine ((sublist_gapAt _ _ value).append (sublist_gapAt _ _ value)).append ?_
  rw [nullErrors]
  split
  · exact List.Sublist.refl _
  · exact List.nil_sublist _

theorem nodup_catalogErrors (value : Value) (items : List Value) :
    (catalogErrors value items).Nodup := by
  have hgeneral := sublist_generalMessages value items
  have hgaps : (gapsFrom ["name", "source"] 0 (beforeNull items)).Nodup :=
    nodup_gapsFrom (by decide) 0
  -- The last of the general messages is moved to the others, so that two parts are left.
  have hperm : (catalogErrors value items).Perm
      (gapAt ["name"] "Marketplace name is required" value ++
        gapAt ["owner", "name"] "Marketplace owner name is required" value ++
          nullErrors items ++ gapsFrom ["name", "source"] 0 (beforeNull items)) := by
    simp only [catalogErrors, List.append_assoc]
    exact (List.perm_append_comm.append_left _).append_left _
  rw [hperm.nodup_iff]
  refine List.nodup_append.mpr ⟨nodup_generalMessages.sublist hgeneral, hgaps, ?_⟩
  rintro message hmem _ hmem' rfl
  rcases mem_gapsFrom hmem' with ⟨index, key, _, _, rfl⟩
  exact lacking_not_mem_generalMessages index key (hgeneral.subset hmem)

theorem gapAt_of_no_object {path : List String} {message : String}
    (hpath : path ≠ []) (hvalue : value.isObject = false) :
    gapAt path message value = [message] := by
  cases path with
  | nil =>
      exact absurd rfl hpath
  | cons key rest =>
      rw [gapAt, isSome_filledAt?,
        formAt?_of_no_member (member?_of_no_members hvalue key)]
      rfl

theorem owner_error_of_no_object {owner : Value}
    (howner : value.member? "owner" = some owner) (hobject : owner.isObject = false) :
    "Marketplace owner name is required" ∈ catalogErrors value items := by
  have hnone : filledAt? ["owner", "name"] value = none := by
    simp [filledAt?, at?, howner, member?_of_no_members hobject]
  simp [catalogErrors, gapAt, hnone]

theorem lacking_mem_gapsFrom {keys : List String} {key : String} {item : Value}
    {index : Nat} (hkey : key ∈ keys) (hitem : items[index]? = some item)
    (hobject : item.isObject = false) : lacking index key ∈ gapsFrom keys 0 items := by
  have hentry : (item, index) ∈ items.zipIdx :=
    List.mk_mem_zipIdx_iff_getElem?.mpr hitem
  refine List.mem_flatMap.mpr ⟨(item, index), hentry, ?_⟩
  refine List.mem_flatMap.mpr ⟨key, hkey, ?_⟩
  rw [gapAt_of_no_object (List.cons_ne_nil _ _) hobject]
  exact List.mem_singleton_self _

/-!
### Behind the first null
-/

theorem listings_take (items : List Value) (index : Nat) :
    listings index (items.take (items.findIdx isNull + 1)) = listings index items := by
  induction items generalizing index with
  | nil =>
      rfl
  | cons value rest ih =>
      rw [List.findIdx_cons]
      cases hnull : isNull value with
      | true =>
          rw [(isNull_iff value).mp hnull]
          rfl
      | false =>
          rw [cond_false, List.take_succ_cons, listings_cons hnull, listings_cons hnull,
            ih (index + 1)]

theorem findIdx_isNull_congr {items items' : List Value}
    (h : List.Forall₂ SameListing items items') :
    items.findIdx isNull = items'.findIdx isNull := by
  induction h with
  | nil =>
      rfl
  | cons hfirst hrest ih =>
      rw [List.findIdx_cons, List.findIdx_cons, hfirst.left, ih]

/-- Two lists of plugins that are looked at alike up to the first null of one of them. -/
def SameToNull (items items' : List Value) : Prop :=
  List.Forall₂ SameListing (items.take (items.findIdx isNull + 1))
    (items'.take (items.findIdx isNull + 1))

instance (items items' : List Value) : Decidable (SameToNull items items') :=
  inferInstanceAs (Decidable (List.Forall₂ _ _ _))

theorem listings_of_sameToNull {items items' : List Value}
    (h : SameToNull items items') (index : Nat) :
    listings index items = listings index items' := by
  have hplaces := findIdx_isNull_congr h
  rw [List.findIdx_take, List.findIdx_take] at hplaces
  -- Both lists have their first null, if any, at the same place.
  have hplace : items'.findIdx isNull = items.findIdx isNull := by
    omega
  calc
    listings index items = listings index (items.take (items.findIdx isNull + 1)) :=
      (listings_take items index).symm
    _ = listings index (items'.take (items.findIdx isNull + 1)) :=
      listings_congr h index
    _ = listings index items' := by
      rw [<- hplace, listings_take]

end Catalogs

/--
The findings in a catalog with a list of plugins. A gap at the top comes first, then
the gaps of each plugin before the first null with its index, and then an error if
there is a null. A value without members has a gap at each of its positions; what
stands behind the first null has no influence; and no message is given twice.
-/
theorem gaps_found_in_catalog {content : String} {value : Value} {items : List Value}
    (hcontent : Value.ofText content = .ok value)
    (hitems : value.member? "plugins" = some (.array items)) :
    marketplace content =
      ⟨gapAt ["name"] "Marketplace name is required" value ++
          gapAt ["owner", "name"] "Marketplace owner name is required" value ++
            gapsFrom ["name", "source"] 0 (beforeNull items) ++ nullErrors items,
        gapsFrom ["description"] 0 (beforeNull items)⟩ ∧
    (forall owner, value.member? "owner" = some owner -> owner.isObject = false ->
      "Marketplace owner name is required" ∈ (marketplace content).errors) ∧
    (forall index item, (beforeNull items)[index]? = some item ->
      item.isObject = false ->
        lacking index "name" ∈ (marketplace content).errors ∧
          lacking index "source" ∈ (marketplace content).errors) ∧
    (forall (content' : String) (value' : Value) (items' : List Value),
      Value.ofText content' = .ok value' ->
      value'.member? "plugins" = some (.array items') ->
      SameForms marketplacePaths value value' -> SameToNull items items' ->
        marketplace content = marketplace content') ∧
    (marketplace content).errors.Nodup ∧ (marketplace content).warnings.Nodup := by
  have hverdict := marketplace_eq_gaps hcontent hitems
  refine ⟨hverdict, ?_, ?_, ?_, ?_, ?_⟩
  · intro owner howner hobject
    rw [hverdict]
    exact owner_error_of_no_object howner hobject
  · intro index item hitem hobject
    rw [hverdict]
    have hfound : forall key, key ∈ ["name", "source"] ->
        lacking index key ∈ catalogErrors value items := by
      intro key hkey
      have hmem := lacking_mem_gapsFrom hkey hitem hobject
      simp only [catalogErrors, List.mem_append]
      exact Or.inl (Or.inr hmem)
    exact ⟨hfound "name" (by decide), hfound "source" (by decide)⟩
  · intro content' value' items' hcontent' hitems' hforms hsame
    rw [marketplace_of_items hcontent hitems, marketplace_of_items hcontent' hitems',
      gapAt_congr (hforms ["name"] (by decide)),
      gapAt_congr (hforms ["owner", "name"] (by decide)),
      listings_of_sameToNull hsame]
  · rw [hverdict]
    exact nodup_catalogErrors value items
  · rw [hverdict]
    exact nodup_gapsFrom (by decide) 0

/-- A catalog with a name that is not filled in, an owner and a plugin that are no
objects, and a plugin behind a null. -/
def stoppedCatalog : String :=
  "\x7b\"owner\":[\"o\"],\"name\":0,\"plugins\":[" ++
    "\x7b\"name\":\"p\",\"source\":\"./p\"\x7d,7,null,\x7b\"name\":\"q\"\x7d]\x7d"

/-- A catalog that ends at the null, and is otherwise looked at alike. -/
def shortCatalog : String :=
  "\x7b\"plugins\":[\x7b\"source\":\"p\",\"name\":\"s\"\x7d,false,null]\x7d"

theorem gaps_found_in_catalog_stopped :
    exists value items value' items' item, Value.ofText stoppedCatalog = .ok value ∧
      value.member? "plugins" = some (.array items) ∧
      Value.ofText shortCatalog = .ok value' ∧
      value'.member? "plugins" = some (.array items') ∧
      SameForms marketplacePaths value value' ∧ SameToNull items items' ∧
      (beforeNull items)[1]? = some item ∧ item.isObject = false ∧
      marketplace stoppedCatalog = marketplace shortCatalog ∧
      lacking 1 "source" ∈ (marketplace stoppedCatalog).errors ∧
      marketplace stoppedCatalog =
        ⟨["Marketplace name is required", "Marketplace owner name is required",
            "Plugin at index 1 is missing name", "Plugin at index 1 is missing source",
            invalidJson],
          ["Plugin at index 0 is missing description",
            "Plugin at index 1 is missing description"]⟩ := by
  have hverdict : marketplace stoppedCatalog =
      ⟨["Marketplace name is required", "Marketplace owner name is required",
          "Plugin at index 1 is missing name", "Plugin at index 1 is missing source",
          invalidJson],
        ["Plugin at index 0 is missing description",
          "Plugin at index 1 is missing description"]⟩ := by
    decide +kernel
  have hcatalogs :
      ((Value.ofText stoppedCatalog).toOption.any fun value =>
        (Value.ofText shortCatalog).toOption.any fun value' =>
          (pluginItems? value).any fun items =>
            (pluginItems? value').any fun items' =>
              (beforeNull items)[1]?.any fun item =>
                decide (SameForms marketplacePaths value value' ∧
                  SameToNull items items' ∧ item.isObject = false)) = true := by
    decide +kernel
  rcases (Option.any_eq_true _ _).mp hcatalogs with ⟨value, hvalue, hrest⟩
  rcases (Option.any_eq_true _ _).mp hrest with ⟨value', hvalue', hrest⟩
  rcases (Option.any_eq_true _ _).mp hrest with ⟨items, hitems, hrest⟩
  rcases (Option.any_eq_true _ _).mp hrest with ⟨items', hitems', hrest⟩
  rcases (Option.any_eq_true _ _).mp hrest with ⟨item, hitem, hlast⟩
  rcases of_decide_eq_true hlast with ⟨hforms, hsame, hobject⟩
  have hcontent := Outcome.toOption_eq_some_iff.mp hvalue
  have hcontent' := Outcome.toOption_eq_some_iff.mp hvalue'
  have hitems := member?_of_pluginItems? hitems
  have hitems' := member?_of_pluginItems? hitems'
  rcases gaps_found_in_catalog hcontent hitems with ⟨_, _, hlacking, hbehind, _, _⟩
  exact ⟨value, items, value', items', item, hcontent, hitems, hcontent', hitems', hforms,
    hsame, hitem, hobject, hbehind _ _ _ hcontent' hitems' hforms hsame,
    (hlacking 1 item hitem hobject).right, hverdict⟩

end Check
end AgentFiles
