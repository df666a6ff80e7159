import AgentFiles.Proofs.Check.Forms
import AgentFiles.Proofs.Json.Agreement
import AgentFiles.Proofs.Json.Schemas

/-!
# The checks of loaded JSON files

A check looks at an untyped value, whereas a file is loaded through the fields of its
schema. What was loaded is read from the same members that the check looks up, so that
the check finds nothing but texts that are empty. There is one exception: loading
accepts the fields of a record inside a catalog as an array too, and there the check
does not find them.
-/

namespace AgentFiles
namespace Check

open Json (Codec Field Record Value)

/-!
## Single members
-/

section Members

variable {R α : Type} {depth : Nat} {blank r : R} {value : Value} {key : String}

theorem isObject_of_hasMember (h : hasMember key value = true) : value.isObject = true := by
  cases hobject : value.isObject with
  | true =>
      rfl
  | false =>
      rw [hasMember, setMember?, member?_of_no_members hobject] at h
      cases h

theorem hasMember_of_text {s : String} (h : value.member? key = some (.string s)) :
    hasMember key value = (s != "") := by
  rw [hasMember, setMember?, h]
  cases hset : s != "" <;>
    simp [Value.isSet, hset]

theorem hasMember_of_mandatory {get : R -> String} {set : String -> R -> R}
    (hget : forall a r, get (set a r) = a)
    (h : (Field.mandatory key .text get set).Agrees depth blank r (value.member? key)) :
    hasMember key value = (get r != "") := by
  rcases Field.mandatory_agrees hget h with ⟨found, hfound, hagrees⟩
  rw [Codec.text_agrees hagrees] at hfound
  exact hasMember_of_text hfound

theorem errorIf_of_mandatory {get : R -> String} {set : String -> R -> R}
    (message : String) (hget : forall a r, get (set a r) = a)
    (h : (Field.mandatory key .text get set).Agrees depth blank r (value.member? key)) :
    Verdict.errorIf (!hasMember key value) message =
      ⟨if get r = "" then [message] else [], []⟩ := by
  rw [hasMember_of_mandatory hget h, Verdict.errorIf_eq]
  simp

theorem hasMember_of_optional {get : R -> Option String} {set : Option String -> R -> R}
    (hget : forall a? r, get (set a? r) = a?) (hblank : get blank = none)
    (h : (Field.optional key .text get set).Agrees depth blank r (value.member? key)) :
    hasMember key value = ((get r).getD "" != "") := by
  rcases Field.optional_agrees hget hblank h with
    ⟨hmissing | hnull, hnone⟩ | ⟨s, found, hfound, _, hsome, hagrees⟩
  · simp [hasMember, setMember?, hmissing, hnone]
  · simp [hasMember, setMember?, hnull, hnone, Value.isSet]
  · rw [Codec.text_agrees hagrees] at hfound
    rw [hasMember_of_text hfound, hsome]
    rfl

theorem agrees_of_setMember? {codec : Codec α} [codec.Faithful] {get : R -> Option α}
    {set : Option α -> R -> R} (hget : forall a? r, get (set a? r) = a?)
    (hblank : get blank = none)
    (h : (Field.optional key codec get set).Agrees depth blank r (value.member? key))
    {found : Value} (hfound : setMember? key value = some found) :
    exists a, codec.Agrees depth a found := by
  rcases Option.filter_eq_some_iff.mp hfound with ⟨hmember, hset⟩
  rw [hmember] at h
  rcases Field.optional_agrees hget hblank h with
    ⟨hmissing | hnull, _⟩ | ⟨a, found', hfound', _, _, hagrees⟩
  · cases hmissing
  · injection hnull with hnull
    rw [hnull] at hset
    cases hset
  · injection hfound' with hfound'
    rw [hfound']
    exact ⟨a, hagrees⟩

theorem shape_of_optional {codec : Codec α} [codec.Faithful] {get : R -> Option α}
    {set : Option α -> R -> R} {fits : Value -> Bool} (message : String)
    (hget : forall a? r, get (set a? r) = a?) (hblank : get blank = none)
    (hfits : forall a found, codec.Agrees depth a found -> fits found = true)
    (h : (Field.optional key codec get set).Agrees depth blank r (value.member? key)) :
    shape key fits message value = .empty := by
  cases hfound : setMember? key value with
  | none =>
      rw [shape, hfound]
      rfl
  | some found =>
      rcases agrees_of_setMember? hget hblank h hfound with ⟨a, hagrees⟩
      rw [shape, hfound, Option.map_some, hfits a found hagrees]
      rfl

theorem shape_of_optional_list {codec : Codec α} [codec.Faithful] {get : R -> Option (List α)}
    {set : Option (List α) -> R -> R} (message : String)
    (hget : forall a? r, get (set a? r) = a?) (hblank : get blank = none)
    (h : (Field.optional key (.list codec) get set).Agrees depth blank r
      (value.member? key)) : shape key Value.isArray message value = .empty :=
  shape_of_optional message hget hblank (fun _ _ => Codec.isArray_of_list_agrees) h

end Members

theorem each_eq_empty {α : Type} {check : α -> Verdict} {items : List α}
    (h : forall item, item ∈ items -> check item = .empty) : each check items = .empty := by
  induction items with
  | nil =>
      rfl
  | cons item rest ih =>
      rw [each, h item List.mem_cons_self,
        ih fun other hother => h other (List.mem_cons_of_mem _ hother)]
      rfl

/-!
## Settings and plugins
-/

section Loaded

variable {depth : Nat} {value : Value} {members : List (String × Value)}

theorem isString_of_text_agrees {s : String} (h : Codec.text.Agrees depth s value) :
    value.isString = true := by
  rw [Codec.text_agrees h]
  rfl

/-- Permissions that are given as an array have no members to look at. -/
theorem permissions_of_agrees {rules : Permissions}
    (h : Permissions.record.codec.Agrees depth rules value) :
    permissions value = .empty := by
  rcases Record.codec_agrees Permissions.lawful h with
    ⟨items, rfl⟩ | ⟨inner, members, rfl, hagrees⟩
  · rfl
  · simp only [Record.Agrees, Permissions.record, List.forall_mem_cons] at hagrees
    rcases hagrees with ⟨hallow, hdeny, _⟩
    apply each_eq_empty
    intro key hkey
    rcases List.mem_pair.mp hkey with rfl | rfl
    · exact shape_of_optional_list _ (fun _ _ => rfl) rfl hallow
    · exact shape_of_optional_list _ (fun _ _ => rfl) rfl hdeny

theorem settingsValue_of_agrees {settings : Settings}
    (h : Settings.record.Agrees depth settings members) :
    settingsValue (.object members) = .empty := by
  simp only [Record.Agrees, Settings.record, List.forall_mem_cons] at h
  rcases h with ⟨_, hmodel, hrules, _, henv, _⟩
  have hpermissions :
      ((setMember? "permissions" (.object members)).map permissions).getD .empty = .empty := by
    cases hfound : setMember? "permissions" (.object members) with
    | none =>
        rfl
    | some found =>
        rcases agrees_of_setMember? (fun _ _ => rfl) rfl hrules hfound with ⟨rules, hagrees⟩
        rw [Option.map_some, permissions_of_agrees hagrees, Option.getD_some]
  rw [settingsValue, hpermissions,
    shape_of_optional _ (fun _ _ => rfl) rfl (fun _ _ => isString_of_text_agrees) hmodel,
    shape_of_optional _ (fun _ _ => rfl) rfl
      (fun _ env henv => by rw [Codec.isObject_of_map_agrees henv, Bool.true_or]) henv]
  rfl

theorem pluginValue_of_agrees {plugin : Plugin}
    (h : Plugin.record.Agrees depth plugin members) :
    pluginValue (.object members) =
      ⟨(if plugin.name = "" then ["Plugin name is required"] else []) ++
        (if plugin.version = "" then ["Plugin version is required"] else []) ++
        (if plugin.description = "" then ["Plugin description is required"] else []),
        []⟩ := by
  simp only [Record.Agrees, Plugin.record, List.forall_mem_cons] at h
  rcases h with ⟨hname, hdescription, hversion, _, hcommands, hagents, hskills, _⟩
  have hlists :
      each (fun key => shape key Value.isArray s!"{key} must be an array" (.object members))
        ["commands", "agents", "skills"] = .empty := by
    apply each_eq_empty
    simp only [List.forall_mem_cons]
    refine ⟨?_, ?_, ?_, ?_⟩
    · exact shape_of_optional_list _ (fun _ _ => rfl) rfl hcommands
    · exact shape_of_optional_list _ (fun _ _ => rfl) rfl hagents
    · exact shape_of_optional_list _ (fun _ _ => rfl) rfl hskills
    · exact fun _ hnone => absurd hnone List.not_mem_nil
  rw [pluginValue, hlists, each, each, each, each,
    errorIf_of_mandatory _ (fun _ _ => rfl) hname,
    errorIf_of_mandatory _ (fun _ _ => rfl) hversion,
    errorIf_of_mandatory _ (fun _ _ => rfl) hdescription]
  simp only [Verdict.empty, Verdict.mk_append_mk, List.append_nil, List.append_assoc]
  rfl

end Loaded

/-- The check of a file that was loaded with `record` is that of an object whose members
the record was read from. -/
theorem whole_of_loadJson {R : Type} {record : Record R} {r : R} {content : String}
    {value : Value} {extra : R -> List (String × Value)}
    {setExtra : List (String × Value) -> R -> R}
    (hlawful : forall depth, record.Lawful depth) (hholds : record.HoldsExtra extra setExtra)
    (hcontent : Value.ofText content = .ok value)
    (hload : loadJson (record.codecWithExtra extra setExtra) content = .ok r) :
    exists depth members, value = .object members ∧ record.Agrees depth r members ∧
      forall check, whole check content = check value := by
  rcases Record.codecWithExtra_agrees hlawful hholds
      (Codec.agrees_of_load hload hcontent) with ⟨depth, members, rfl, _, hagrees, _⟩
  exact ⟨depth, members, rfl, hagrees, whole_eq hcontent nofun⟩

/-- In settings that were loaded the check finds nothing, and in a plugin only the
mandatory texts that are empty. -/
theorem findings_of_loaded {content : String} {value : Value}
    (hcontent : Value.ofText content = .ok value) :
    (forall settings, loadJson Settings.codec content = .ok settings ->
      Check.settings content = .empty) ∧
    (forall plugin, loadJson Plugin.codec content = .ok plugin ->
      Check.plugin content =
        ⟨(if plugin.name = "" then ["Plugin name is required"] else []) ++
          (if plugin.version = "" then ["Plugin version is required"] else []) ++
          (if plugin.description = "" then ["Plugin description is required"] else []),
          []⟩) := by
  constructor
  · intro settings hload
    rcases whole_of_loadJson Settings.lawful Settings.holdsExtra hcontent hload with
      ⟨depth, members, rfl, hagrees, hwhole⟩
    rw [Check.settings, hwhole, settingsValue_of_agrees hagrees]
  · intro plugin hload
    rcases whole_of_loadJson Plugin.lawful Plugin.holdsExtra hcontent hload with
      ⟨depth, members, rfl, hagrees, hwhole⟩
    rw [Check.plugin, hwhole, pluginValue_of_agrees hagrees]

/-- A text that is loaded as settings and as a plugin, with rules that are given as an
array, nulls for lists and two mandatory texts that are empty. -/
def emptyNamed : String :=
  "\x7b\"name\":\"\",\"permissions\":[[\"Read\"]],\"version\":\"\",\"model\":null," ++
    "\"description\":\"d\",\"commands\":null,\"env\":\x7b\x7d\x7d"

theorem findings_of_loaded_empty_named :
    exists value settings plugin, Value.ofText emptyNamed = .ok value ∧
      (loadJson Settings.codec emptyNamed = .ok settings ∧
        Check.settings emptyNamed = .empty) ∧
      (loadJson Plugin.codec emptyNamed = .ok plugin ∧
        Check.plugin emptyNamed =
          ⟨["Plugin name is required", "Plugin version is required"], []⟩) := by
  have hvalue : (Value.ofText emptyNamed).toOption.isSome = true := by
    decide +kernel
  have hsettings : (loadJson Settings.codec emptyNamed).toOption.isSome = true := by
    decide +kernel
  have hplugin :
      ((loadJson Plugin.codec emptyNamed).toOption.any fun plugin =>
        decide (plugin.name = "" ∧ plugin.version = "" ∧ plugin.description = "d")) =
        true := by
    decide +kernel
  rcases Option.isSome_iff_exists.mp hvalue with ⟨value, hvalue⟩
  rcases Option.isSome_iff_exists.mp hsettings with ⟨settings, hsettings⟩
  rcases (Option.any_eq_true _ _).mp hplugin with ⟨plugin, hplugin, htexts⟩
  rcases of_decide_eq_true htexts with ⟨hname, hversion, hdescription⟩
  have hcontent := Outcome.toOption_eq_some_iff.mp hvalue
  have hsettings := Outcome.toOption_eq_some_iff.mp hsettings
  have hplugin := Outcome.toOption_eq_some_iff.mp hplugin
  rcases findings_of_loaded hcontent with ⟨hquiet, hfindings⟩
  refine ⟨value, settings, plugin, hcontent, ⟨hsettings, hquiet settings hsettings⟩,
    hplugin, ?_⟩
  rw [hfindings plugin hplugin, hname, hversion, hdescription]
  rfl

/-!
## Catalogs
-/

/-- The owner of a catalog and each of its plugins are given as objects, and not as
arrays of their fields. -/
structure NamesFields (value : Value) : Prop where
  owner : (value.member? "owner").any Value.isObject = true
  plugins : (pluginItems? value).any (fun items => items.all Value.isObject) = true

instance (value : Value) : Decidable (NamesFields value) :=
  decidable_of_iff
    ((value.member? "owner").any Value.isObject = true ∧
      (pluginItems? value).any (fun items => items.all Value.isObject) = true)
    ⟨fun ⟨howner, hplugins⟩ => ⟨howner, hplugins⟩, fun h => ⟨h.owner, h.plugins⟩⟩

/-- No text is empty that a catalog cannot do without. -/
structure Filled (catalog : Marketplace) : Prop where
  name : catalog.name ≠ ""
  owner : catalog.owner.name ≠ ""
  plugins : forall listing, listing ∈ catalog.plugins ->
    listing.name ≠ "" ∧ listing.source ≠ ""

instance (catalog : Marketplace) : Decidable (Filled catalog) :=
  decidable_of_iff
    (catalog.name ≠ "" ∧ catalog.owner.name ≠ "" ∧
      forall listing, listing ∈ catalog.plugins -> listing.name ≠ "" ∧ listing.source ≠ "")
    ⟨fun ⟨hname, howner, hplugins⟩ => ⟨hname, howner, hplugins⟩,
      fun h => ⟨h.name, h.owner, h.plugins⟩⟩

def undescribed (index : Nat) (plugins : List Listing) : List String :=
  ((plugins.zipIdx index).filter fun entry => entry.1.description.getD "" == "").map
    fun entry => s!"Plugin at index {entry.2} is missing description"

theorem undescribed_cons (index : Nat) (plugin : Listing) (rest : List Listing) :
    undescribed index (plugin :: rest) =
      (if plugin.description.getD "" == "" then
        [s!"Plugin at index {index} is missing description"] else []) ++
          undescribed (index + 1) rest := by
  rw [undescribed, List.zipIdx_cons, List.filter_cons]
  split <;>
    rfl

section Catalogs

variable {depth : Nat} {value : Value} {members : List (String × Value)}

/-!
### What has no error is an object
-/

theorem isObject_of_listing {index : Nat} (h : (listing index value).errors = []) :
    value.isObject = true := by
  cases hname : hasMember "name" value with
  | true =>
      exact isObject_of_hasMember hname
  | false =>
      rw [listing, hname] at h
      cases h

theorem isObject_of_listings :
    forall (items : List Value) (index : Nat), (listings index items).errors = [] ->
      forall item, item ∈ items -> item.isObject = true
  | [], _, _, item, hitem => by
      cases hitem
  | first :: rest, index, h, item, hitem => by
      -- Null is the one item after which nothing is looked at, but it is an error itself.
      cases hnull : isNull first with
      | true =>
          rw [(isNull_iff first).mp hnull] at h
          cases h
      | false =>
          rw [listings_cons hnull] at h
          rcases List.append_eq_nil_iff.mp h with ⟨hfirst, hrest⟩
          rcases List.mem_cons.mp hitem with rfl | hitem
          · exact isObject_of_listing hfirst
          · exact isObject_of_listings rest (index + 1) hrest item hitem

theorem isObject_of_ownerHasName (h : ownerHasName value = true) :
    (value.member? "owner").any Value.isObject = true := by
  cases howner : value.member? "owner" with
  | none =>
      rw [ownerHasName, howner] at h
      cases h
  | some owner =>
      rw [ownerHasName, howner] at h
      exact isObject_of_hasMember h

theorem namesFields_of_no_errors (h : (marketplaceValue value).errors = []) :
    NamesFields value := by
  rcases List.append_eq_nil_iff.mp h with ⟨hheads, hlistings⟩
  rcases List.append_eq_nil_iff.mp hheads with ⟨_, howner⟩
  constructor
  · cases hname : ownerHasName value with
    | true =>
        exact isObject_of_ownerHasName hname
    | false =>
        rw [hname] at howner
        cases howner
  · rw [listingsMember_eq] at hlistings
    cases hitems : pluginItems? value with
    | none =>
        rw [hitems] at hlistings
        cases hlistings
    | some items =>
        rw [hitems] at hlistings
        exact List.all_eq_true.mpr (isObject_of_listings items 0 hlistings)

/-!
### Objects have no error
-/

theorem listing_of_agrees {plugin : Listing}
    (hagrees : Listing.record.Agrees depth plugin members)
    (hfilled : plugin.name ≠ "" ∧ plugin.source ≠ "") (index : Nat) :
    listing index (.object members) =
      ⟨[], if plugin.description.getD "" == "" then
        [s!"Plugin at index {index} is missing description"] else []⟩ := by
  simp only [Record.Agrees, Listing.record, List.forall_mem_cons] at hagrees
  rcases hagrees with ⟨hname, hsource, hdescription, _⟩
  rw [listing, errorIf_of_mandatory _ (fun _ _ => rfl) hname, if_neg hfilled.left,
    errorIf_of_mandatory _ (fun _ _ => rfl) hsource, if_neg hfilled.right,
    hasMember_of_optional (fun _ _ => rfl) rfl hdescription,
    Verdict.warningIf_eq, bne, Bool.not_not]
  rfl

theorem listings_of_agrees {plugins : List Listing} {items : List Value}
    (hagrees : List.Forall₂ (Listing.record.codec.Agrees depth) plugins items)
    (hfilled : forall plugin, plugin ∈ plugins -> plugin.name ≠ "" ∧ plugin.source ≠ "")
    (hobjects : forall item, item ∈ items -> item.isObject = true) (index : Nat) :
    listings index items = ⟨[], undescribed index plugins⟩ := by
  induction hagrees generalizing index with
  | nil =>
      rfl
  | cons hfirst hrest ih =>
      rename_i plugin item plugins items
      rcases Value.isObject_iff.mp (hobjects item List.mem_cons_self) with ⟨members, rfl⟩
      rcases Record.agrees_of_object Listing.lawful hfirst with ⟨inner, hmembers⟩
      rw [listings_cons rfl, listing_of_agrees hmembers (hfilled plugin List.mem_cons_self),
        ih (fun other hother => hfilled other (List.mem_cons_of_mem _ hother))
          (fun other hother => hobjects other (List.mem_cons_of_mem _ hother)),
        undescribed_cons]
      rfl

theorem hasMember_of_contact {contact : Contact} {name : String}
    (hagrees : (Contact.record name).codec.Agrees depth contact value)
    (hobject : value.isObject = true) : hasMember "name" value = (contact.name != "") := by
  rcases Value.isObject_iff.mp hobject with ⟨members, rfl⟩
  rcases Record.agrees_of_object Contact.lawful hagrees with ⟨inner, hmembers⟩
  simp only [Record.Agrees, Contact.record, List.forall_mem_cons] at hmembers
  exact hasMember_of_mandatory (fun _ _ => rfl) hmembers.left

theorem marketplaceValue_of_agrees {catalog : Marketplace}
    (h : Marketplace.record.Agrees depth catalog members) (hfilled : Filled catalog)
    (hnames : NamesFields (.object members)) :
    marketplaceValue (.object members) = ⟨[], undescribed 0 catalog.plugins⟩ := by
  simp only [Record.Agrees, Marketplace.record, List.forall_mem_cons] at h
  rcases h with ⟨hname, howner, hplugins, _⟩
  have howner : ownerHasName (.object members) = true := by
    rcases Field.mandatory_agrees (fun _ _ => rfl) howner with ⟨owner, hfound, hcontact⟩
    have hmember : Value.member? "owner" (.object members) = some owner := hfound
    have hobject := hnames.owner
    rw [hmember] at hobject
    rw [ownerHasName, hmember, Option.map_some, Option.getD_some,
      hasMember_of_contact hcontact hobject, bne_iff_ne]
    exact hfilled.owner
  have hlistings : listingsMember (.object members) =
      ⟨[], undescribed 0 catalog.plugins⟩ := by
    rcases Field.mandatory_agrees (fun _ _ => rfl) hplugins with ⟨plugins, hfound, hlist⟩
    rcases Codec.list_agrees hlist with ⟨inner, items, rfl, hitems⟩
    have hmember : Value.member? "plugins" (.object members) = some (.array items) := hfound
    have hobjects := hnames.plugins
    rw [pluginItems?, hmember] at hobjects
    rw [listingsMember, hmember]
    exact listings_of_agrees hitems hfilled.plugins (List.all_eq_true.mp hobjects) 0
  rw [marketplaceValue, errorIf_of_mandatory _ (fun _ _ => rfl) hname,
    if_neg hfilled.name, howner, hlistings]
  rfl

end Catalogs

/-- A catalog that was loaded and whose texts are filled in passes the check exactly if
its owner and its plugins are given as objects. The check then warns of the plugins
without a description. -/
theorem passes_iff_names_fields {content : String} {value : Value} {catalog : Marketplace}
    (hcontent : Value.ofText content = .ok value)
    (hload : loadJson Marketplace.codec content = .ok catalog) (hfilled : Filled catalog) :
    ((Check.marketplace content).errors = [] <-> NamesFields value) ∧
      (NamesFields value ->
        Check.marketplace content = ⟨[], undescribed 0 catalog.plugins⟩) := by
  rcases whole_of_loadJson Marketplace.lawful Marketplace.holdsExtra hcontent hload with
    ⟨depth, members, rfl, hagrees, hwhole⟩
  have hpasses := marketplaceValue_of_agrees hagrees hfilled
  rw [Check.marketplace, hwhole]
  refine ⟨⟨namesFields_of_no_errors, ?_⟩, hpasses⟩
  intro hnames
  rw [hpasses hnames]

def briefCatalog : String :=
  "\x7b\"plugins\":[\x7b\"name\":\"p\",\"source\":\"./p\",\"description\":null\x7d," ++
    "\x7b\"source\":\"./q\",\"description\":\"d\",\"name\":\"q\"\x7d]," ++
      "\"owner\":\x7b\"name\":\"o\"\x7d,\"name\":\"m\"\x7d"

theorem passes_iff_names_fields_brief :
    exists value catalog, Value.ofText briefCatalog = .ok value ∧
      loadJson Marketplace.codec briefCatalog = .ok catalog ∧ Filled catalog ∧
      NamesFields value ∧
      undescribed 0 catalog.plugins = ["Plugin at index 0 is missing description"] ∧
      (Check.marketplace briefCatalog).errors = [] ∧
      Check.marketplace briefCatalog = ⟨[], undescribed 0 catalog.plugins⟩ := by
  have hvalue :
      ((Value.ofText briefCatalog).toOption.any fun value =>
        decide (NamesFields value)) = true := by
    decide +kernel
  have hcatalog :
      ((loadJson Marketplace.codec briefCatalog).toOption.any fun catalog =>
        decide (Filled catalog ∧
          undescribed 0 catalog.plugins =
            ["Plugin at index 0 is missing description"])) = true := by
    decide +kernel
  rcases (Option.any_eq_true _ _).mp hvalue with ⟨value, hvalue, hnames⟩
  rcases (Option.any_eq_true _ _).mp hcatalog with ⟨catalog, hcatalog, hlisted⟩
  have hcontent := Outcome.toOption_eq_some_iff.mp hvalue
  have hload := Outcome.toOption_eq_some_iff.mp hcatalog
  have hnames := of_decide_eq_true hnames
  rcases of_decide_eq_true hlisted with ⟨hfilled, hwarnings⟩
  rcases passes_iff_names_fields hcontent hload hfilled with ⟨hpasses, hverdict⟩
  exact ⟨value, catalog, hcontent, hload, hfilled, hnames, hwarnings,
    hpasses.mpr hnames, hverdict hnames⟩

def listedOwner : String :=
  "\x7b\"name\":\"m\",\"owner\":[\"o\"],\"plugins\":[]\x7d"

/-- The check misses the name of an owner that loading has found. -/
theorem listed_owner_fails :
    exists value catalog, Value.ofText listedOwner = .ok value ∧
      loadJson Marketplace.codec listedOwner = .ok catalog ∧ Filled catalog ∧
      Check.marketplace listedOwner = ⟨["Marketplace owner name is required"], []⟩ := by
  have hvalue : (Value.ofText listedOwner).toOption.isSome = true := by
    decide +kernel
  have hcatalog :
      ((loadJson Marketplace.codec listedOwner).toOption.any fun catalog =>
        decide (Filled catalog)) = true := by
    decide +kernel
  have hverdict : Check.marketplace listedOwner =
      ⟨["Marketplace owner name is required"], []⟩ := by
    decide +kernel
  rcases Option.isSome_iff_exists.mp hvalue with ⟨value, hvalue⟩
  rcases (Option.any_eq_true _ _).mp hcatalog with ⟨catalog, hcatalog, hfilled⟩
  exact ⟨value, catalog, Outcome.toOption_eq_some_iff.mp hvalue,
    Outcome.toOption_eq_some_iff.mp hcatalog, of_decide_eq_true hfilled, hverdict⟩

end Check
end AgentFiles
