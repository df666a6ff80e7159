import AgentFiles.Check.File
import AgentFiles.Proofs.Check.Findings
import AgentFiles.Proofs.Yaml.Texts

/-!
# Limits and warnings about length

Limits matter to nothing but the two warnings about a name or a description that is
too long. Whatever else is found is found under all limits alike, and each warning
is there exactly if the text that it is about is longer than its limit.
-/

namespace AgentFiles

/-!
## Texts and their length
-/

namespace Text

theorem units16_eq (s : String) :
    units16 s = s.length + s.toList.countP fun c => 0x10000 ≤ c.toNat := by
  rw [units16, <- String.length_toList]
  induction s.toList with
  | nil =>
      rfl
  | cons c rest ih =>
      rw [List.map_cons, List.foldr_cons, ih, List.length_cons, List.countP_cons, unitsOf]
      by_cases hplane : c.toNat < 0x10000
      · rw [if_pos hplane, if_neg (by simpa using hplane)]
        omega
      · rw [if_neg hplane, if_pos (by simpa using hplane)]
        omega

end Text

namespace Check

open Yaml (Value)

section Measuring

variable {key content : String}

theorem headerText?_eq_some_iff (s : String) :
    headerText? key content = some s <->
      exists entries value, (Markdown.parse content).entries? = some entries ∧
        Value.lookup key entries = some value ∧ value.IsText s := by
  simp only [headerText?, Markdown.lookupText, Option.bind_eq_some_iff,
    Value.text?_eq_some_iff]
  constructor
  · rintro ⟨entries, hentries, value, hlookup, htext⟩
    exact ⟨entries, value, hentries, hlookup, htext⟩
  · rintro ⟨entries, value, hentries, hlookup, htext⟩
    exact ⟨entries, hentries, value, hlookup, htext⟩

/-- The entry of the header is a text, possibly under tags, that is longer than the
limit: every character counts once, and once more beyond the Basic Multilingual Plane. -/
def LongText (key : String) (limit : Nat) (content : String) : Prop :=
  exists entries value s, (Markdown.parse content).entries? = some entries ∧
    Value.lookup key entries = some value ∧ value.IsText s ∧
    limit < s.length + s.toList.countP fun c => 0x10000 ≤ c.toNat

theorem longText_iff (limit : Nat) :
    LongText key limit content <->
      exists s, headerText? key content = some s ∧ limit < Text.units16 s := by
  simp only [headerText?_eq_some_iff, Text.units16_eq]
  constructor
  · rintro ⟨entries, value, s, hentries, hlookup, htext, hlong⟩
    exact ⟨s, ⟨entries, value, hentries, hlookup, htext⟩, hlong⟩
  · rintro ⟨s, ⟨entries, value, hentries, hlookup, htext⟩, hlong⟩
    exact ⟨entries, value, s, hentries, hlookup, htext, hlong⟩

theorem LongText.mono {limit limit' : Nat} (hle : limit ≤ limit')
    (h : LongText key limit' content) : LongText key limit content := by
  rcases h with ⟨entries, value, s, hentries, hlookup, htext, hlong⟩
  exact ⟨entries, value, s, hentries, hlookup, htext, Nat.lt_of_le_of_lt hle hlong⟩

end Measuring

/-!
## Warnings about length
-/

def lengthWarning (field : String) (limit : Nat) : String :=
  field ++ " should be less than " ++ toString limit ++ " characters"

/-- The warning is one about the length of a name or a description, under any limit. -/
def AboutLength (warning : String) : Prop :=
  exists limit, warning = lengthWarning "Name" limit ∨
    warning = lengthWarning "Description" limit

theorem toList_lengthWarning (field : String) (limit : Nat) :
    exists rest, (lengthWarning field limit).toList = field.toList ++ rest := by
  simp only [lengthWarning, String.toList_append, List.append_assoc]
  exact ⟨_, rfl⟩

/-- Two characters tell the warnings about length from all others. -/
theorem not_aboutLength {warning : String}
    (hname : warning.toList.take 2 ≠ ['N', 'a'])
    (hdescription : warning.toList.take 2 ≠ ['D', 'e']) : ¬ AboutLength warning := by
  rintro ⟨limit, rfl | rfl⟩
  · rcases toList_lengthWarning "Name" limit with ⟨rest, hrest⟩
    rw [hrest] at hname
    exact hname rfl
  · rcases toList_lengthWarning "Description" limit with ⟨rest, hrest⟩
    rw [hrest] at hdescription
    exact hdescription rfl

theorem lengthWarning_name_ne_description (limit limit' : Nat) :
    lengthWarning "Name" limit ≠ lengthWarning "Description" limit' := by
  intro heq
  rcases toList_lengthWarning "Name" limit with ⟨rest, hrest⟩
  rcases toList_lengthWarning "Description" limit' with ⟨rest', hrest'⟩
  rw [heq, hrest'] at hrest
  cases hrest

section Measured

variable {field : String} {limit : Nat} {text? : Option String}

theorem mem_lengthWarnings_iff {warning : String} :
    warning ∈ lengthWarnings field limit text? <->
      warning = lengthWarning field limit ∧
        exists s, text? = some s ∧ limit < Text.units16 s := by
  cases text? with
  | none =>
      simp [lengthWarnings]
  | some s =>
      by_cases hlong : limit < Text.units16 s <;>
        simp [lengthWarnings, lengthWarning, hlong]

theorem sublist_lengthWarnings :
    (lengthWarnings field limit text?).Sublist [lengthWarning field limit] := by
  cases text? with
  | none =>
      exact List.nil_sublist _
  | some s =>
      by_cases hlong : limit < Text.units16 s
      · rw [lengthWarnings, if_pos hlong]
        exact List.Sublist.refl _
      · rw [lengthWarnings, if_neg hlong]
        exact List.nil_sublist _

end Measured

/-!
## Warnings of JSON kinds
-/

def IsListingWarning (warning : String) : Prop :=
  exists index : Nat, warning = s!"Plugin at index {index} is missing description"

theorem IsListingWarning.not_aboutLength {warning : String} (h : IsListingWarning warning) :
    ¬ AboutLength warning := by
  rcases h with ⟨index, rfl⟩
  have hstart : exists rest,
      s!"Plugin at index {index} is missing description".toList =
        "Plugin at index ".toList ++ rest := by
    simp only [String.toList_append, List.append_assoc]
    exact ⟨_, rfl⟩
  rcases hstart with ⟨rest, hrest⟩
  apply Check.not_aboutLength <;>
    rw [hrest] <;>
    exact nofun

def WarnsOfListings (v : Verdict) : Prop :=
  forall warning, warning ∈ v.warnings -> IsListingWarning warning

theorem warnsOfListings_of_nil {v : Verdict} (h : v.warnings = []) : WarnsOfListings v := by
  intro warning hmem
  rw [h] at hmem
  cases hmem

theorem WarnsOfListings.append {v w : Verdict} (hv : WarnsOfListings v)
    (hw : WarnsOfListings w) : WarnsOfListings (v ++ w) := by
  intro warning hmem
  rcases List.mem_append.mp hmem with hmem | hmem
  · exact hv warning hmem
  · exact hw warning hmem

theorem warnsOfListings_errorIf (found : Bool) (message : String) :
    WarnsOfListings (.errorIf found message) :=
  warnsOfListings_of_nil (by rw [Verdict.errorIf_eq])

theorem warnsOfListings_each {α : Type} {check : α -> Verdict}
    (h : forall item, WarnsOfListings (check item)) (items : List α) :
    WarnsOfListings (each check items) := by
  induction items with
  | nil =>
      exact warnsOfListings_of_nil rfl
  | cons item rest ih =>
      exact (h item).append ih

theorem warnsOfListings_whole {check : Json.Value -> Verdict}
    (h : forall value, WarnsOfListings (check value)) (content : String) :
    WarnsOfListings (whole check content) := by
  rw [whole]
  split
  · exact warnsOfListings_of_nil rfl
  · exact warnsOfListings_of_nil rfl
  · exact h _

theorem warnsOfListings_settingsValue (value : Json.Value) :
    WarnsOfListings (settingsValue value) := by
  refine (WarnsOfListings.append (warnsOfListings_errorIf _ _) ?_).append
    (warnsOfListings_errorIf _ _)
  cases setMember? "permissions" value with
  | none =>
      exact warnsOfListings_of_nil rfl
  | some rules =>
      exact warnsOfListings_each (fun _ => warnsOfListings_errorIf _ _) _

theorem warnsOfListings_pluginValue (value : Json.Value) :
    WarnsOfListings (pluginValue value) :=
  (warnsOfListings_each (fun _ => warnsOfListings_errorIf _ _) _).append
    (warnsOfListings_each (fun _ => warnsOfListings_errorIf _ _) _)

theorem warnsOfListings_listing (index : Nat) (value : Json.Value) :
    WarnsOfListings (listing index value) := by
  refine ((warnsOfListings_errorIf _ _).append (warnsOfListings_errorIf _ _)).append ?_
  rw [Verdict.warningIf_eq]
  intro warning hmem
  cases hfound : !hasMember "description" value with
  | true =>
      rw [hfound] at hmem
      exact ⟨index, List.mem_singleton.mp hmem⟩
  | false =>
      rw [hfound] at hmem
      cases hmem

theorem warnsOfListings_listings (items : List Json.Value) (index : Nat) :
    WarnsOfListings (listings index items) := by
  induction items generalizing index with
  | nil =>
      exact warnsOfListings_of_nil rfl
  | cons value rest ih =>
      cases value with
      | null =>
          exact warnsOfListings_of_nil rfl
      | bool | number | string | array | object =>
          exact (warnsOfListings_listing index _).append (ih (index + 1))

theorem warnsOfListings_marketplaceValue (value : Json.Value) :
    WarnsOfListings (marketplaceValue value) := by
  refine ((warnsOfListings_errorIf _ _).append (warnsOfListings_errorIf _ _)).append ?_
  rw [listingsMember]
  split
  · exact warnsOfListings_listings _ _
  · exact warnsOfListings_of_nil rfl

theorem warnsOfListings_contentOf {kind : Kind} (hkind : kind.holdsJson = true)
    (limits : Limits) (content : String) :
    WarnsOfListings (contentOf limits kind content) := by
  cases kind with
  | settings =>
      exact warnsOfListings_whole warnsOfListings_settingsValue content
  | plugin =>
      exact warnsOfListings_whole warnsOfListings_pluginValue content
  | marketplace =>
      exact warnsOfListings_whole warnsOfListings_marketplaceValue content
  | memory | command | agent | skill | hook | outputStyle =>
      cases hkind

/-!
## What does not depend on the limits
-/

/-- The text of the header whose length a kind compares with the limit for names. -/
def measuredName? (kind : Kind) (content : String) : Option String :=
  if kind = .memory then headerText? "name" content else none

def limitsDescription : Kind -> Bool
  | .memory | .command | .agent | .skill | .outputStyle => true
  | .hook | .settings | .plugin | .marketplace => false

def measuredDescription? (kind : Kind) (content : String) : Option String :=
  if limitsDescription kind then headerText? "description" content else none

/-- Under all limits the verdict has the same errors, and the same warnings after those
about the length of the two texts. -/
structure LimitsApart (verdict : Limits -> Verdict) (name? description? : Option String)
    (errors others : List String) : Prop where
  eq : forall limits, verdict limits =
    ⟨errors, lengthWarnings "Name" limits.name name? ++
      lengthWarnings "Description" limits.description description? ++ others⟩
  others : forall warning, warning ∈ others -> ¬ AboutLength warning

theorem contentOf_eq_of_unlimited {kind : Kind} (hkind : limitsDescription kind = false)
    (limits limits' : Limits) (content : String) :
    contentOf limits kind content = contentOf limits' kind content := by
  cases kind with
  | hook | settings | plugin | marketplace =>
      rfl
  | memory | command | agent | skill | outputStyle =>
      cases hkind

theorem limitsApart_of_unlimited {kind : Kind} {content : String}
    (hkind : limitsDescription kind = false)
    (hwarnings : forall warning, warning ∈ (contentOf {} kind content).warnings ->
      ¬ AboutLength warning) :
    LimitsApart (fun limits => contentOf limits kind content) none none
      (contentOf {} kind content).errors (contentOf {} kind content).warnings where
  eq := fun limits => contentOf_eq_of_unlimited hkind limits {} content
  others := hwarnings

theorem not_aboutLength_of_mem_nil (warning : String) (h : warning ∈ []) :
    ¬ AboutLength warning :=
  absurd h List.not_mem_nil

theorem LimitsApart.of_no_others {verdict : Limits -> Verdict}
    {name? description? : Option String} {errors : List String}
    (h : forall limits, verdict limits =
      ⟨errors, lengthWarnings "Name" limits.name name? ++
        lengthWarnings "Description" limits.description description?⟩) :
    LimitsApart verdict name? description? errors [] where
  eq := by
    intro limits
    rw [h, List.append_nil]
  others := not_aboutLength_of_mem_nil

theorem limitsApart_contentOf (kind : Kind) (content : String) :
    exists errors others,
      LimitsApart (fun limits => contentOf limits kind content)
        (measuredName? kind content) (measuredDescription? kind content) errors
        others := by
  cases kind with
  | memory =>
      refine ⟨_, _, fun limits => memory_eq limits content, ?_⟩
      intro warning hmem
      split at hmem
      · cases hmem
      · rw [List.mem_singleton.mp hmem]
        exact not_aboutLength (by decide) (by decide)
  | agent =>
      refine ⟨_, _, fun limits => agent_eq limits content, ?_⟩
      intro warning hmem
      rcases modelAdvices_eq content with heq | heq
      · rw [heq] at hmem
        cases hmem
      · rw [heq] at hmem
        rw [List.mem_singleton.mp hmem]
        exact not_aboutLength (by decide +kernel) (by decide +kernel)
  | command =>
      exact ⟨_, [], .of_no_others fun limits => command_eq limits content⟩
  | skill =>
      exact ⟨_, [], .of_no_others fun limits => skill_eq limits content⟩
  | outputStyle =>
      exact ⟨_, [], .of_no_others fun limits => outputStyle_eq limits content⟩
  | hook =>
      have hnone : (contentOf {} .hook content).warnings = [] := by
        rw [contentOf, hook_eq]
      refine ⟨_, _, limitsApart_of_unlimited rfl ?_⟩
      rw [hnone]
      exact not_aboutLength_of_mem_nil
  | settings | plugin | marketplace =>
      refine ⟨_, _, limitsApart_of_unlimited rfl fun warning hmem => ?_⟩
      exact (warnsOfListings_contentOf rfl {} content warning hmem).not_aboutLength

section Presence

variable {verdict : Limits -> Verdict} {name? description? : Option String}
variable {errors others : List String}

theorem LimitsApart.warnings (h : LimitsApart verdict name? description? errors others)
    (limits : Limits) :
    exists own, own.Sublist [lengthWarning "Name" limits.name,
        lengthWarning "Description" limits.description] ∧
      (verdict limits).warnings = own ++ others := by
  refine ⟨_, ?_, by rw [h.eq limits]⟩
  exact sublist_lengthWarnings.append sublist_lengthWarnings

theorem LimitsApart.mem_name_iff (h : LimitsApart verdict name? description? errors others)
    (limits : Limits) :
    lengthWarning "Name" limits.name ∈ (verdict limits).warnings <->
      exists s, name? = some s ∧ limits.name < Text.units16 s := by
  have hothers : lengthWarning "Name" limits.name ∉ others :=
    fun hmem => h.others _ hmem ⟨_, Or.inl rfl⟩
  have hne := lengthWarning_name_ne_description limits.name limits.description
  rw [h.eq limits]
  simp [mem_lengthWarnings_iff, hothers, hne]

theorem LimitsApart.mem_description_iff
    (h : LimitsApart verdict name? description? errors others) (limits : Limits) :
    lengthWarning "Description" limits.description ∈ (verdict limits).warnings <->
      exists s, description? = some s ∧ limits.description < Text.units16 s := by
  have hothers : lengthWarning "Description" limits.description ∉ others :=
    fun hmem => h.others _ hmem ⟨_, Or.inr rfl⟩
  have hne := (lengthWarning_name_ne_description limits.name limits.description).symm
  rw [h.eq limits]
  simp [mem_lengthWarnings_iff, hothers, hne]

end Presence

/-!
## Limits
-/

section Kinds

variable {kind : Kind} {content : String}

theorem mem_limited_iff :
    kind ∈ [.memory, .command, .agent, .skill, .outputStyle] <->
      limitsDescription kind = true := by
  cases kind <;>
    decide

theorem mem_unlimited_iff :
    kind ∈ [.hook, .settings, .plugin, .marketplace] <->
      limitsDescription kind = false := by
  cases kind <;>
    decide

theorem measuredDescription?_iff (limit : Nat) :
    (exists s, measuredDescription? kind content = some s ∧ limit < Text.units16 s) <->
      kind ∈ [.memory, .command, .agent, .skill, .outputStyle] ∧
        LongText "description" limit content := by
  rw [mem_limited_iff, longText_iff, measuredDescription?]
  cases limitsDescription kind <;>
    simp

theorem measuredName?_iff (limit : Nat) :
    (exists s, measuredName? kind content = some s ∧ limit < Text.units16 s) <->
      kind = .memory ∧ LongText "name" limit content := by
  rw [longText_iff, measuredName?]
  by_cases hkind : kind = .memory <;>
    simp [hkind]

theorem mem_description_warning_iff (limits : Limits) :
    lengthWarning "Description" limits.description ∈
        (contentOf limits kind content).warnings <->
      kind ∈ [.memory, .command, .agent, .skill, .outputStyle] ∧
        LongText "description" limits.description content := by
  rcases limitsApart_contentOf kind content with ⟨_, _, hapart⟩
  rw [<- measuredDescription?_iff]
  exact hapart.mem_description_iff limits

theorem mem_name_warning_iff (limits : Limits) :
    lengthWarning "Name" limits.name ∈ (contentOf limits kind content).warnings <->
      kind = .memory ∧ LongText "name" limits.name content := by
  rcases limitsApart_contentOf kind content with ⟨_, _, hapart⟩
  rw [<- measuredName?_iff]
  exact hapart.mem_name_iff limits

theorem errors_contentOf_eq (limits limits' : Limits) :
    (contentOf limits kind content).errors = (contentOf limits' kind content).errors := by
  rcases limitsApart_contentOf kind content with ⟨_, _, hapart⟩
  have hlimits : forall limits, (contentOf limits kind content).errors = _ :=
    fun limits => congrArg Verdict.errors (hapart.eq limits)
  rw [hlimits limits, hlimits limits']

theorem isValid_contentOf_eq (limits limits' : Limits) :
    (contentOf limits kind content).isValid = (contentOf limits' kind content).isValid := by
  rw [Verdict.isValid, Verdict.isValid, errors_contentOf_eq limits limits']

theorem metadata?_eq (limits limits' : Limits) (fileName content : String) :
    metadata? limits fileName content = metadata? limits' fileName content := by
  have hsummary : forall kind,
      (contentOf limits kind content).isValid = (contentOf limits' kind content).isValid :=
    fun _ => isValid_contentOf_eq limits limits'
  simp only [metadata?, hsummary]

end Kinds

/--
Limits matter to the warnings about length and to nothing else. Such a warning is
there exactly if the kind looks for it and the text in the header is longer than the
limit, so that it can only go away when the limit is raised.
-/
theorem limits_matter_to_length_only (kind : Kind) (content : String) :
    (forall limits limits' : Limits,
      (contentOf limits kind content).errors =
        (contentOf limits' kind content).errors ∧
      (contentOf limits kind content).isValid =
        (contentOf limits' kind content).isValid ∧
      forall fileName,
        metadata? limits fileName content = metadata? limits' fileName content) ∧
    (kind ∈ [.hook, .settings, .plugin, .marketplace] ->
      forall limits limits' : Limits,
        contentOf limits kind content = contentOf limits' kind content) ∧
    (forall limits : Limits,
      (lengthWarning "Description" limits.description ∈
          (contentOf limits kind content).warnings <->
        kind ∈ [.memory, .command, .agent, .skill, .outputStyle] ∧
          LongText "description" limits.description content) ∧
      (lengthWarning "Name" limits.name ∈ (contentOf limits kind content).warnings <->
        kind = .memory ∧ LongText "name" limits.name content)) ∧
    (exists others : List String,
      (forall warning, warning ∈ others -> ¬ AboutLength warning) ∧
      forall limits : Limits, exists own : List String,
        own.Sublist [lengthWarning "Name" limits.name,
          lengthWarning "Description" limits.description] ∧
        (contentOf limits kind content).warnings = own ++ others) ∧
    (forall limits limits' : Limits,
      (limits.description ≤ limits'.description ->
        lengthWarning "Description" limits'.description ∈
          (contentOf limits' kind content).warnings ->
        lengthWarning "Description" limits.description ∈
          (contentOf limits kind content).warnings) ∧
      (limits.name ≤ limits'.name ->
        lengthWarning "Name" limits'.name ∈ (contentOf limits' kind content).warnings ->
        lengthWarning "Name" limits.name ∈ (contentOf limits kind content).warnings)) := by
  refine ⟨?_, ?_, ?_, ?_, ?_⟩
  · intro limits limits'
    exact ⟨errors_contentOf_eq limits limits', isValid_contentOf_eq limits limits',
      fun fileName => metadata?_eq limits limits' fileName content⟩
  · intro hkind limits limits'
    exact contentOf_eq_of_unlimited (mem_unlimited_iff.mp hkind) limits limits' content
  · intro limits
    exact ⟨mem_description_warning_iff limits, mem_name_warning_iff limits⟩
  · rcases limitsApart_contentOf kind content with ⟨errors, others, hapart⟩
    exact ⟨others, hapart.others, hapart.warnings⟩
  · intro limits limits'
    simp only [mem_description_warning_iff, mem_name_warning_iff]
    constructor
    · rintro hle ⟨hkind, hlong⟩
      exact ⟨hkind, hlong.mono hle⟩
    · rintro hle ⟨hkind, hlong⟩
      exact ⟨hkind, hlong.mono hle⟩

/-- A name of three characters and a description of two, under a tag, each of them with
one character that counts twice. -/
def astralMemory : String :=
  "---\nname: ab𝔸\ndescription: !y \"a𝔸\"\n---\nBody"

theorem limits_matter_to_length_only_astral :
    (contentOf ⟨4, 3⟩ .memory astralMemory).warnings = [] ∧
      lengthWarning "Description" 2 ∈ (contentOf ⟨3, 2⟩ .memory astralMemory).warnings ∧
      lengthWarning "Description" 1 ∈ (contentOf ⟨2, 1⟩ .memory astralMemory).warnings ∧
      lengthWarning "Name" 3 ∈ (contentOf ⟨3, 2⟩ .memory astralMemory).warnings ∧
      lengthWarning "Name" 2 ∈ (contentOf ⟨2, 1⟩ .memory astralMemory).warnings ∧
      contentOf ⟨2, 1⟩ .hook astralMemory = contentOf ⟨3, 2⟩ .hook astralMemory := by
  have hwithin : (contentOf ⟨4, 3⟩ .memory astralMemory).warnings = [] := by
    decide +kernel
  have hdescription :
      lengthWarning "Description" 2 ∈ (contentOf ⟨3, 2⟩ .memory astralMemory).warnings := by
    decide +kernel
  have hname :
      lengthWarning "Name" 3 ∈ (contentOf ⟨3, 2⟩ .memory astralMemory).warnings := by
    decide +kernel
  rcases limits_matter_to_length_only .memory astralMemory with ⟨_, _, _, _, hraised⟩
  rcases hraised ⟨2, 1⟩ ⟨3, 2⟩ with ⟨hlowerDescription, hlowerName⟩
  rcases limits_matter_to_length_only .hook astralMemory with ⟨_, hunlimited, _, _, _⟩
  exact ⟨hwithin, hdescription, hlowerDescription (by decide) hdescription, hname,
    hlowerName (by decide) hname, hunlimited (by decide) ⟨2, 1⟩ ⟨3, 2⟩⟩

end Check
end AgentFiles
