import AgentFiles.Load
import AgentFiles.Proofs.Header.Nodes
import AgentFiles.Proofs.Markdown.FenceGrammar

/-!
# The two ways of loading a typed header

A typed header is loaded straight from the text of a file, or the file is parsed
into values first and the header is taken from them. What the second way accepts
the first one accepts too, with the same header and the same body, exactly when
no optional entry of the header is a hidden null.
-/

namespace AgentFiles

def Yaml.Document.entries (doc : Yaml.Document) :
    List (Yaml.Node × Yaml.Node) :=
  match doc.root with
  | .mapping _ _ _ entries => entries
  | _ => []

namespace Header

open Yaml (Document Node Reading Path Mark Fault)
open Yaml.Reading

/-- Whether the header of a file has an optional entry that is a hidden null. -/
def holdsHiddenNull (schema : Schema) (content : String) : Bool :=
  match Markdown.split content.toList with
  | some (block, _) =>
    let doc := Document.ofText (String.ofList block)
    doc.entries.any (hidesNull schema doc)
  | none => false

/-!
## The root of a document
-/

theorem placing_eq_ok_iff {α : Type} {mark : Mark} {path : Path}
    {read : Reading α} {jumps : Nat} {result : α × Nat} :
    placing mark path read jumps = .ok result <-> read jumps = .ok result := by
  rw [placing, Outcome.mapError_eq_ok_iff]

theorem ofText_mapping_eq_ok_iff {schema : Schema} {text : String}
    {header : Header} {mark : Mark} {anchor : Option Nat}
    {tag : Option Yaml.Tag} {nodes : List (Node × Node)}
    (hroot : (Document.ofText text).root = .mapping mark anchor tag nodes)
    (hflaw : (Document.ofText text).flaw = none)
    (hmore : (Document.ofText text).more = false) :
    ofText schema text = .ok header <->
      exists draft last,
        readEntries schema (Document.ofText text) {} nodes 0 =
            .ok (draft, last) ∧
          draft.complete schema = .ok header := by
  rw [ofText, Document.readRoot_eq_ok_iff, hroot]
  simp only [readRoot, placing_eq_ok_iff, bind_eq_ok_iff, failing_eq_ok_iff]
  constructor
  · intro h
    rcases h with ⟨_, ⟨draft, last, hread, hcomplete, _⟩, _, _⟩
    exact ⟨draft, last, hread, hcomplete⟩
  · intro h
    rcases h with ⟨draft, last, hread, hcomplete⟩
    exact ⟨last, ⟨draft, last, hread, hcomplete, rfl⟩, hflaw, hmore⟩

/-!
## Texts that are mappings
-/

section Mapping

variable {schema : Schema} {text : String} {header : Header}
variable {values : List (Yaml.Value × Yaml.Value)}

/-- A header that is taken from values is read from the text, unless it has a hidden null. -/
theorem ofText_of_ofEntries
    (hvalue : Yaml.Value.ofText text = .ok (.mapping values))
    (hheader : ofEntries schema values = .ok header)
    (hhidden : (Document.ofText text).entries.any
      (hidesNull schema (Document.ofText text)) = false) :
    ofText schema text = .ok header := by
  rcases Yaml.Value.mapping_of_ofText hvalue with
    ⟨mark, anchor, tag, nodes, last, hroot, hread, hflaw, hmore⟩
  rcases ofEntries_eq_ok_iff.mp hheader with ⟨draft, hadd, hcomplete⟩
  rw [Document.entries, hroot] at hhidden
  apply (ofText_mapping_eq_ok_iff hroot hflaw hmore).mpr
  exists draft, last
  refine ⟨?_, hcomplete⟩
  apply readEntries_of_addValues ⟨_, hread⟩ _ hhidden hadd
  intro entry hentry
  apply Document.isVoid_of_child text
  rw [hroot]
  exact List.mem_flatMap.mpr ⟨entry, hentry, by simp⟩

theorem ofText_ne_of_hidden
    (hvalue : Yaml.Value.ofText text = .ok (.mapping values))
    (hheader : ofEntries schema values = .ok header)
    (hhidden : (Document.ofText text).entries.any
      (hidesNull schema (Document.ofText text)) = true) :
    ofText schema text ≠ .ok header := by
  intro htext
  rcases Yaml.Value.mapping_of_ofText hvalue with
    ⟨mark, anchor, tag, nodes, last, hroot, hread, hflaw, hmore⟩
  rcases ofEntries_eq_ok_iff.mp hheader with ⟨draft, hadd, hcomplete⟩
  rcases (ofText_mapping_eq_ok_iff hroot hflaw hmore).mp htext with
    ⟨draft', last', hread', hcomplete'⟩
  rw [Document.entries, hroot, List.any_eq_true] at hhidden
  rcases hhidden with ⟨entry, hentry, hhides⟩
  rcases hidesNull_eq_true_iff.mp hhides with
    ⟨key, declared, hkey, hfind, hoptional, hnull⟩
  have hvalues : header.part? key = none := by
    rw [(Draft.complete_eq_ok hcomplete).right.right.right key declared hfind,
      addValues_part?_of_hidden ⟨_, hread⟩ hadd hentry hkey hfind hoptional
        hnull]
    rfl
  rcases readEntries_part?_of_hidden hread' hentry hkey hfind hoptional hnull
    with ⟨s, hs⟩
  have hnodes : header.part? key = some (.text s) := by
    rw [(Draft.complete_eq_ok hcomplete').right.right.right key declared hfind,
      hs]
    rfl
  rw [hvalues] at hnodes
  cases hnodes

end Mapping

/-!
## Files
-/

theorem loadMarkdown_eq_missingHeader_iff (schema : Schema)
    (content : String) :
    loadMarkdown schema content = .error .missingHeader <->
      Markdown.split content.toList = none := by
  unfold loadMarkdown
  cases hsplit : Markdown.split content.toList with
  | none =>
      simp
  | some parts =>
      rcases parts with ⟨block, rest⟩
      cases hheader : ofText schema (String.ofList block) <;>
        simp [hheader]

theorem loadMarkdown_eq_ok_iff {schema : Schema} {content : String}
    {block rest : List Char} {header : Header}
    (hsplit : Markdown.split content.toList = some (block, rest)) :
    loadMarkdown schema content =
        .ok ⟨header, String.ofList (Text.trim rest)⟩ <->
      ofText schema (String.ofList block) = .ok header := by
  unfold loadMarkdown
  rw [hsplit]
  cases hheader : ofText schema (String.ofList block) <;>
    simp [hheader]

theorem loadParsed_eq_some {schema : Schema} {content : String}
    {header : Header} (h : loadParsed schema content = .ok (some header)) :
    exists block rest values,
      Markdown.split content.toList = some (block, rest) ∧
        Yaml.Value.ofText (String.ofList block) = .ok (.mapping values) ∧
        ofEntries schema values = .ok header ∧
        (Markdown.parse content).body = String.ofList (Text.trim rest) := by
  unfold loadParsed at h
  cases hentries : (Markdown.parse content).entries? with
  | none =>
      rw [hentries] at h
      cases h
  | some values =>
      have hheader : (Markdown.parse content).hasHeader = true := by
        rw [Markdown.Document.hasHeader, hentries]
        rfl
      rcases Markdown.split_of_hasHeader hheader with
        ⟨block, rest, values', hsplit, hblock, hparse⟩
      have hvalues : values' = values := by
        rw [hparse] at hentries
        cases hentries
        rfl
      rw [hentries] at h
      simp only [Outcome.map_eq_ok_iff, loadEntries,
        Outcome.mapError_eq_ok_iff] at h
      rcases h with ⟨_, hof, heq⟩
      cases heq
      refine ⟨block, rest, values, hsplit, ?_, hof, by rw [hparse]⟩
      rw [<- hvalues]
      exact Markdown.ofText_of_blockOf hblock

/-!
## Agreement
-/

/--
Loading straight from the text misses a header only where nothing stands between
fences, and gives what is taken from the values but for hidden nulls.
-/
theorem loading_agrees (schema : Schema) (content : String) :
    (loadMarkdown schema content = .error .missingHeader <->
      Markdown.split content.toList = none) ∧
    (forall header : Header,
      loadParsed schema content = .ok (some header) ->
        (loadMarkdown schema content =
            .ok ⟨header, (Markdown.parse content).body⟩ <->
          holdsHiddenNull schema content = false)) := by
  constructor
  · exact loadMarkdown_eq_missingHeader_iff schema content
  · intro header hparsed
    rcases loadParsed_eq_some hparsed with
      ⟨block, rest, values, hsplit, hvalue, hheader, hbody⟩
    rw [hbody, loadMarkdown_eq_ok_iff hsplit, holdsHiddenNull, hsplit]
    constructor
    · intro htext
      rw [<- Bool.not_eq_true]
      intro hhidden
      exact ofText_ne_of_hidden hvalue hheader hhidden htext
    · intro hhidden
      exact ofText_of_ofEntries hvalue hheader hhidden

/-- An agent with an alias, a plain null and a list of tools. -/
def aliasedAgent : String :=
  "---\nname: &n a\ndescription: *n\nmodel: ~\ntools: [b]\nx: [*n]\n---\n y\n"

theorem loading_agrees_aliased :
    exists header : Header,
      loadParsed .agent aliasedAgent = .ok (some header) ∧
        header.declared =
          [("name", .text "a"), ("description", .text "a"),
            ("tools", .tools (.list ["b"]))] ∧
        holdsHiddenNull .agent aliasedAgent = false ∧
        loadMarkdown .agent aliasedAgent = .ok ⟨header, "y"⟩ := by
  have hparsed :
      (loadParsed .agent aliasedAgent).toOption.join.map (·.declared) =
        some
          [("name", .text "a"), ("description", .text "a"),
            ("tools", .tools (.list ["b"]))] := by
    decide +kernel
  have hhidden : holdsHiddenNull .agent aliasedAgent = false := by
    decide +kernel
  have hbody : (Markdown.parse aliasedAgent).body = "y" := by
    decide +kernel
  rcases Option.map_eq_some_iff.mp hparsed with ⟨header, hjoin, hdeclared⟩
  have hload : loadParsed .agent aliasedAgent = .ok (some header) :=
    Outcome.toOption_eq_some_iff.mp (Option.join_eq_some_iff.mp hjoin)
  refine ⟨header, hload, hdeclared, hhidden, ?_⟩
  rw [<- hbody]
  exact ((loading_agrees .agent aliasedAgent).right header hload).mpr hhidden

/-- A hook with a null that is quoted under its tag. -/
def quotedNullHook : String :=
  "---\ndescription: !!null \"null\"\n---\nBody"

theorem quoted_null_tells_loading_apart :
    exists header : Header,
      loadParsed .hook quotedNullHook = .ok (some header) ∧
        loadMarkdown .hook quotedNullHook ≠
          .ok ⟨header, (Markdown.parse quotedNullHook).body⟩ := by
  have hparsed :
      (loadParsed .hook quotedNullHook).toOption.join.map (·.declared) =
        some [] := by
    decide +kernel
  have hloaded :
      (loadMarkdown .hook quotedNullHook).toOption.map (·.header.declared) =
        some [("description", .text "null")] := by
    decide +kernel
  rcases Option.map_eq_some_iff.mp hparsed with ⟨header, hjoin, hdeclared⟩
  have hload : loadParsed .hook quotedNullHook = .ok (some header) :=
    Outcome.toOption_eq_some_iff.mp (Option.join_eq_some_iff.mp hjoin)
  refine ⟨header, hload, ?_⟩
  intro hsame
  rw [hsame] at hloaded
  have hnull : some header.declared = some [("description", .text "null")] :=
    hloaded
  rw [hdeclared] at hnull
  cases hnull

end Header
end AgentFiles
