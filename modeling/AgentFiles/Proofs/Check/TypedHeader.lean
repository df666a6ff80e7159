import AgentFiles.Check.Markdown
import AgentFiles.Proofs.Header.Lookup
import AgentFiles.Proofs.Verdict

/-!
# Verdicts on typed headers

The checks look at values, which may be anything. Where the values have no tags
and fit the schema of the kind, each check says what a plain comparison says
about the texts of the typed header: whether a text is empty, is too long, has a
character that no name may have, or is the name of a model.
-/

namespace AgentFiles

theorem Yaml.Value.plainText_string (s : String) :
    (Yaml.Value.string s).plainText = s.toList :=
  rfl

namespace Check

open Yaml (Value)

/-!
## Plain checks
-/

def isNameCharacter (underscores : Bool) (c : Char) : Bool :=
  c.isLower || c.isDigit || c == '-' || (underscores && c == '_')

def nameErrors (identity : Identity) (underscores : Bool) (name : String) :
    List String :=
  if name = "" then [identity.missingName]
  else if name.toList.all (isNameCharacter underscores) then []
  else [identity.invalidName]

def descriptionErrors (identity : Identity) (description : String) :
    List String :=
  if description = "" then [identity.missingDescription] else []

def bodyErrors (message body : String) : List String :=
  if Text.allBlank body.toList then [message] else []

/-- A warning about a text that is longer than a limit, in UTF-16 units. -/
def lengthWarnings (field : String) (limit : Nat) : Option String ->
    List String
  | some text =>
    if limit < Text.units16 text then
      [field ++ " should be less than " ++ toString limit ++ " characters"]
    else []
  | none => []

def modelWarnings : Option String -> List String
  | some model =>
    if model ≠ "" ∧ Model.isKnown model = false then [modelAdvice] else []
  | none => []

def plainVerdict (identity : Identity) (underscores : Bool) (limits : Limits)
    (name description : String) (more : List String) (body : String) :
    Verdict :=
  ⟨nameErrors identity underscores name ++
      descriptionErrors identity description ++
      bodyErrors identity.missingBody body,
    lengthWarnings "Description" limits.description (some description) ++
      more⟩

/-!
## Single checks
-/

theorem allows_eq_isNameCharacter (naming : Naming) :
    naming.allows = isNameCharacter (naming == .underscores) := by
  funext c
  rfl

theorem body_eq (document : Markdown.Document) (message : String) :
    body document message = ⟨bodyErrors message document.body, []⟩ := by
  simp only [body, Verdict.errorIf_eq, Markdown.Document.hasBody,
    Bool.not_not, bodyErrors]

section Lookup

variable {entries : Entries} {text : String} {text? : Option String}

theorem name_eq (identity : Identity)
    (h : Value.lookup "name" entries = some (.string text)) :
    name identity entries =
      ⟨nameErrors identity (identity.naming == .underscores) text, []⟩ := by
  simp only [name, h, Value.isSet, Value.plainText_string, nameErrors]
  by_cases hempty : text = ""
  · simp [hempty, Verdict.failure]
  · have hadmits :
        identity.naming.admits text.toList =
          text.toList.all
            (isNameCharacter (identity.naming == .underscores)) := by
      simp [Naming.admits, allows_eq_isNameCharacter, hempty]
    rw [hadmits, Verdict.errorIf_eq]
    cases text.toList.all
        (isNameCharacter (identity.naming == .underscores)) <;>
      simp [hempty]

theorem exceeds_eq (field : String) (limit : Nat) (value? : Option Value)
    (h : value?.bind Value.text? = text?) :
    (if exceeds value? limit then
        [field ++ " should be less than " ++ toString limit ++ " characters"]
      else []) = lengthWarnings field limit text? := by
  rw [exceeds, h]
  cases text? <;>
    simp [lengthWarnings]

theorem descriptionLength_eq (limits : Limits)
    (h : (Value.lookup "description" entries).bind Value.text? = text?) :
    descriptionLength limits entries =
      ⟨[], lengthWarnings "Description" limits.description text?⟩ := by
  rw [descriptionLength, Verdict.warningIf_eq, <- exceeds_eq _ _ _ h]
  rfl

theorem nameLength_eq (limits : Limits)
    (h : (Value.lookup "name" entries).bind Value.text? = text?) :
    nameLength limits entries =
      ⟨[], lengthWarnings "Name" limits.name text?⟩ := by
  rw [nameLength, Verdict.warningIf_eq, <- exceeds_eq _ _ _ h]
  rfl

theorem description_eq (identity : Identity) (limits : Limits)
    (h : Value.lookup "description" entries = some (.string text)) :
    description identity limits entries =
      ⟨descriptionErrors identity text,
        lengthWarnings "Description" limits.description (some text)⟩ := by
  have htext : (Value.lookup "description" entries).bind Value.text? =
      some text := by
    rw [h]
    rfl
  rw [description, descriptionLength_eq limits htext, h, isSet]
  by_cases hempty : text = ""
  · simp [hempty, Value.isSet, descriptionErrors, Verdict.failure,
      lengthWarnings, Text.units16]
  · simp [hempty, Value.isSet, descriptionErrors]

theorem model_eq
    (h : (exists s, Value.lookup "model" entries = some (.string s) ∧
        text? = some s) ∨
      (text? = none ∧ (Value.lookup "model" entries = none ∨
        Value.lookup "model" entries = some .null))) :
    model entries = ⟨[], modelWarnings text?⟩ := by
  rcases h with ⟨s, hlookup, rfl⟩ | ⟨rfl, hlookup | hlookup⟩
  · have hnames : namesModel (.string s) = Model.isKnown s := by
      simp [namesModel, Value.text?, Value.untag, Value.plainText_string,
        Model.isKnown]
    simp only [model, hlookup, Verdict.warningIf_eq, hnames, modelWarnings,
      Value.isSet]
    simp
  · simp only [model, hlookup]
    rfl
  · simp only [model, hlookup]
    rfl

end Lookup

/-!
## Verdicts
-/

section Kinds

variable {content : String} {entries : Entries} {header : Header}
variable {schema : Header.Schema}

theorem identified_eq {identity : Identity} {more : Entries -> Verdict}
    {moreWarnings : List String} {name description : String} (limits : Limits)
    (hentries : (Markdown.parse content).entries? = some entries)
    (hname : Value.lookup "name" entries = some (.string name))
    (hdescription :
      Value.lookup "description" entries = some (.string description))
    (hmore : more entries = ⟨[], moreWarnings⟩) :
    identified identity more limits content =
      plainVerdict identity (identity.naming == .underscores) limits name
        description moreWarnings (Markdown.parse content).body := by
  simp only [identified, hentries, name_eq identity hname,
    description_eq identity limits hdescription, hmore, body_eq,
    Verdict.mk_append_mk, plainVerdict, List.append_nil, List.nil_append]

theorem identified_of_typed {identity : Identity}
    {more : Entries -> Verdict} {moreWarnings : List String} (limits : Limits)
    (hentries : (Markdown.parse content).entries? = some entries)
    (huntagged : Header.Untagged entries)
    (hname : schema.find? "name" = some (.needed "name"))
    (hdescription : schema.find? "description" = some (.needed "description"))
    (hmore : more entries = ⟨[], moreWarnings⟩)
    (hheader : Header.ofEntries schema entries = .ok header) :
    exists name description,
      header.text? "name" = some name ∧
        header.text? "description" = some description ∧
        identified identity more limits content =
          plainVerdict identity (identity.naming == .underscores) limits name
            description moreWarnings (Markdown.parse content).body := by
  rcases Header.lookup_of_required huntagged hname rfl rfl hheader with
    ⟨name, hlookupName, htextName⟩
  rcases Header.lookup_of_required huntagged hdescription rfl rfl hheader with
    ⟨description, hlookupDescription, htextDescription⟩
  exact ⟨name, description, htextName, htextDescription,
    identified_eq limits hentries hlookupName hlookupDescription hmore⟩

theorem memory_of_typed (limits : Limits)
    (hentries : (Markdown.parse content).entries? = some entries)
    (huntagged : Header.Untagged entries)
    (hheader : Header.ofEntries .memory entries = .ok header) :
    memory limits content =
      ⟨bodyErrors "Content body is required" (Markdown.parse content).body,
        lengthWarnings "Name" limits.name (header.text? "name") ++
          lengthWarnings "Description" limits.description
            (header.text? "description")⟩ := by
  have hname := Header.text?_of_lookup huntagged
    (show Header.Schema.memory.find? "name" = some (.text "name") from rfl)
    rfl hheader
  have hdescription := Header.text?_of_lookup huntagged
    (show Header.Schema.memory.find? "description" =
      some (.text "description") from rfl)
    rfl hheader
  simp only [memory, hentries, nameLength_eq limits hname,
    descriptionLength_eq limits hdescription, body_eq, Verdict.mk_append_mk,
    List.append_nil, List.nil_append]

theorem command_of_typed (limits : Limits)
    (hentries : (Markdown.parse content).entries? = some entries)
    (huntagged : Header.Untagged entries)
    (hheader : Header.ofEntries .command entries = .ok header) :
    command limits content =
      ⟨bodyErrors "Command content is required" (Markdown.parse content).body,
        lengthWarnings "Description" limits.description
          (header.text? "description")⟩ := by
  have hdescription := Header.text?_of_lookup huntagged
    (show Header.Schema.command.find? "description" =
      some (.text "description") from rfl)
    rfl hheader
  simp only [command, hentries, descriptionLength_eq limits hdescription,
    body_eq, Verdict.mk_append_mk, List.append_nil, List.nil_append]

theorem model_of_typed
    (huntagged : Header.Untagged entries)
    (hheader : Header.ofEntries .agent entries = .ok header) :
    model entries = ⟨[], modelWarnings (header.text? "model")⟩ := by
  apply model_eq
  rcases Header.lookup_of_ofEntries huntagged
      (show Header.Schema.agent.find? "model" = some (.text "model") from rfl)
      rfl hheader with
    hgiven | ⟨_, hnone, hlookup⟩
  · exact Or.inl hgiven
  · exact Or.inr ⟨hnone, hlookup⟩

end Kinds

/--
On files whose header fits the schema of the kind and has no tags, the verdict
is the plain one on the typed header and the body.
-/
theorem verdict_of_typed_header (limits : Limits) (content : String)
    (entries : Entries) (header : Header)
    (hentries : (Markdown.parse content).entries? = some entries)
    (huntagged : Header.Untagged entries) :
    (loadEntries .agent entries = .ok header ->
      exists name description,
        header.text? "name" = some name ∧
          header.text? "description" = some description ∧
          agent limits content =
            plainVerdict .agent true limits name description
              (modelWarnings (header.text? "model"))
              (Markdown.parse content).body) ∧
    (loadEntries .skill entries = .ok header ->
      exists name description,
        header.text? "name" = some name ∧
          header.text? "description" = some description ∧
          skill limits content =
            plainVerdict .skill false limits name description []
              (Markdown.parse content).body) ∧
    (loadEntries .outputStyle entries = .ok header ->
      exists name description,
        header.text? "name" = some name ∧
          header.text? "description" = some description ∧
          outputStyle limits content =
            plainVerdict .outputStyle false limits name description []
              (Markdown.parse content).body) ∧
    (loadEntries .memory entries = .ok header ->
      memory limits content =
        ⟨bodyErrors "Content body is required" (Markdown.parse content).body,
          lengthWarnings "Name" limits.name (header.text? "name") ++
            lengthWarnings "Description" limits.description
              (header.text? "description")⟩) ∧
    (loadEntries .command entries = .ok header ->
      command limits content =
        ⟨bodyErrors "Command content is required"
            (Markdown.parse content).body,
          lengthWarnings "Description" limits.description
            (header.text? "description")⟩) := by
  refine ⟨?_, ?_, ?_, ?_, ?_⟩
  · intro hload
    have hheader := Header.ofEntries_of_loadEntries hload
    exact identified_of_typed limits hentries huntagged rfl rfl
      (model_of_typed huntagged hheader) hheader
  · intro hload
    have hheader := Header.ofEntries_of_loadEntries hload
    exact identified_of_typed limits hentries huntagged rfl rfl rfl hheader
  · intro hload
    have hheader := Header.ofEntries_of_loadEntries hload
    exact identified_of_typed limits hentries huntagged rfl rfl rfl hheader
  · intro hload
    exact memory_of_typed limits hentries huntagged
      (Header.ofEntries_of_loadEntries hload)
  · intro hload
    exact command_of_typed limits hentries huntagged
      (Header.ofEntries_of_loadEntries hload)

/-- An agent with a name that is not allowed and without a description or a body. -/
def emptyAgent : String :=
  "---\nname: My agent\ndescription: ''\nmodel: gpt\ncolor: ~\n---\n \n"

theorem verdict_of_typed_header_empty_agent :
    exists entries header,
      (Markdown.parse emptyAgent).entries? = some entries ∧
        Header.Untagged entries ∧
        loadEntries .agent entries = .ok header ∧
        header.text? "name" = some "My agent" ∧
        header.text? "description" = some "" ∧
        header.text? "model" = some "gpt" ∧
        agent {} emptyAgent =
          ⟨[Identity.agent.invalidName, Identity.agent.missingDescription,
              Identity.agent.missingBody],
            [modelAdvice]⟩ := by
  have hparsed :
      ((Markdown.parse emptyAgent).entries?.map fun entries =>
        (entries.all fun entry =>
            !entry.1.isTagged && !entry.2.isTagged,
          (loadEntries .agent entries).toOption.map fun header =>
            (header.text? "name", header.text? "description",
              header.text? "model"))) =
        some (true, some (some "My agent", some "", some "gpt")) := by
    decide +kernel
  have hbody : (Markdown.parse emptyAgent).body = "" := by
    decide +kernel
  rcases Option.map_eq_some_iff.mp hparsed with ⟨entries, hentries, hpair⟩
  rw [Prod.mk.injEq] at hpair
  rcases hpair with ⟨htags, hheader⟩
  rcases Option.map_eq_some_iff.mp hheader with ⟨header, hoption, htexts⟩
  have hload : loadEntries .agent entries = .ok header :=
    Outcome.toOption_eq_some_iff.mp hoption
  rw [Prod.mk.injEq, Prod.mk.injEq] at htexts
  rcases htexts with ⟨hname, hdescription, hmodel⟩
  have huntagged : Header.Untagged entries := by
    intro entry hentry
    have hentryTags := List.all_eq_true.mp htags entry hentry
    simpa using hentryTags
  rcases (verdict_of_typed_header {} emptyAgent entries header hentries
      huntagged).left hload with
    ⟨name, description, hname', hdescription', hverdict⟩
  rw [hname] at hname'
  rw [hdescription] at hdescription'
  cases hname'
  cases hdescription'
  refine ⟨entries, header, hentries, huntagged, hload, hname,
    hdescription, hmodel, ?_⟩
  rw [hverdict, hmodel, hbody]
  decide

end Check
end AgentFiles
