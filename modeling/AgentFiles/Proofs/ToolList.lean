import AgentFiles.Proofs.Text.Commas
import AgentFiles.Proofs.Text.Trimming
import AgentFiles.ToolList

/-!
# The two spellings of a list of tools

Joining items by commas and splitting the text again gives the same items, so a list names the same
tools in either spelling. A name is what trimming leaves of an item, and trimming a name leaves it
as it is: the names of a list, written as a list of tools again, are its names.
-/

namespace AgentFiles
namespace ToolList

variable {tools : ToolList} {name : String}

/-!
## Names
-/

theorem mem_names_iff :
    name ∈ tools.names <->
      name ≠ "" ∧ exists piece, piece ∈ tools.pieces ∧ Text.trim piece = name.toList := by
  simp only [names, List.mem_map, List.mem_filter, Bool.not_eq_true', List.isEmpty_eq_false_iff]
  constructor
  · rintro ⟨_, ⟨⟨piece, hpiece, rfl⟩, hne⟩, rfl⟩
    refine ⟨?_, piece, hpiece, (String.toList_ofList).symm⟩
    intro hempty
    exact hne (String.ofList_eq_empty_iff.mp hempty)
  · rintro ⟨hne, piece, hpiece, htrim⟩
    refine ⟨name.toList, ⟨⟨piece, hpiece, htrim⟩, ?_⟩, String.ofList_toList⟩
    intro hempty
    exact hne (String.toList_eq_nil_iff.mp hempty)

theorem trimmed_of_mem_names (hname : name ∈ tools.names) : Text.Trimmed name.toList := by
  rcases (mem_names_iff.mp hname).right with ⟨piece, _, htrim⟩
  rw [<- htrim]
  exact Text.trimmed_trim piece

theorem comma_not_mem_of_mem_names {line : String} (hname : name ∈ (inline line).names) :
    ',' ∉ name.toList := by
  rcases (mem_names_iff.mp hname).right with ⟨piece, hpiece, htrim⟩
  rcases Text.exists_trim_append piece with ⟨front, back, happend, _, _⟩
  intro hcomma
  apply Text.comma_not_mem_of_mem_splitCommas hpiece
  rw [happend, htrim]
  exact List.mem_append_left back (List.mem_append_right front hcomma)

theorem names_eq_of_trim {texts : List String} (hne : forall text, text ∈ texts -> text ≠ "")
    (htrim : tools.pieces.map Text.trim = texts.map String.toList) : tools.names = texts := by
  have hkept :
      (texts.map String.toList).filter (fun text => !text.isEmpty) = texts.map String.toList := by
    apply List.filter_eq_self.mpr
    intro chars hchars
    rcases List.mem_map.mp hchars with ⟨text, htext, rfl⟩
    simpa using hne text htext
  rw [names, htrim, hkept, List.map_map]
  calc
    texts.map (String.ofList ∘ String.toList) = texts.map id :=
      List.map_congr_left fun text _ => String.ofList_toList
    _ = texts := List.map_id texts

theorem trim_toList_of_mem_names (hname : name ∈ tools.names) :
    Text.trim name.toList = name.toList := by
  rcases (mem_names_iff.mp hname).right with ⟨piece, _, htrim⟩
  rw [<- htrim, Text.trim_trim]

/-!
## One spelling from the other
-/

theorem names_list_eq_names_inline {items : List String}
    (hcommas : forall item, item ∈ items -> ',' ∉ item.toList) :
    (list items).names = (inline (",".intercalate items)).names := by
  by_cases hne : items = []
  · subst hne
    rfl
  · have hpieces :
        (inline (",".intercalate items)).pieces = (list items).pieces := by
      rw [pieces, pieces, String.toList_intercalate]
      apply Text.splitCommas_joinCommas
      · exact List.forall_mem_map.mpr hcommas
      · simpa using hne
    rw [names, names, hpieces]

theorem names_list_names (tools : ToolList) : (list tools.names).names = tools.names := by
  apply names_eq_of_trim
  · intro name hname
    exact (mem_names_iff.mp hname).left
  · rw [pieces, List.map_map]
    exact List.map_congr_left fun name hname => trim_toList_of_mem_names hname

theorem names_inline_names
    (hcommas : forall name, name ∈ tools.names -> ',' ∉ name.toList) :
    (inline (", ".intercalate tools.names)).names = tools.names := by
  have hne : forall name, name ∈ tools.names -> name ≠ "" :=
    fun _ hname => (mem_names_iff.mp hname).left
  have htrim : forall name, name ∈ tools.names -> Text.trim name.toList = name.toList :=
    fun _ hname => trim_toList_of_mem_names hname
  generalize tools.names = texts at hcommas hne htrim ⊢
  cases texts with
  | nil =>
      rfl
  | cons first rest =>
      have hpieces :
          (inline (", ".intercalate (first :: rest))).pieces =
            first.toList :: (rest.map String.toList).map (' ' :: ·) := by
        rw [pieces, String.toList_intercalate, List.map_cons]
        change Text.splitCommas ([',', ' '].intercalate _) = _
        rw [Text.intercalate_spaced]
        apply Text.splitCommas_joinCommas _ (List.cons_ne_nil _ _)
        simpa using hcommas
      apply names_eq_of_trim hne
      rw [hpieces, List.map_cons, List.map_cons, htrim first List.mem_cons_self, List.map_map,
        List.map_map]
      congr 1
      apply List.map_congr_left
      intro name hname
      have hblank : Text.allBlank [' '] = true := rfl
      calc
        Text.trim (' ' :: name.toList) = Text.trim name.toList :=
          congrArg Text.trimEnd (Text.trimStart_append_blank name.toList hblank)
        _ = name.toList := htrim name (List.mem_cons_of_mem first hname)

/--
A list whose items have no comma in them names the same tools as the text that joins the items by
commas. Whichever way a list is written, its names are not empty and have no blank at their ends,
and they are the names of the list of them; so they are of the text that joins them, with a blank
behind each comma, unless a comma is in a name. In the names of a text there is none.
-/
theorem spellings_agree :
    (forall items : List String, (forall item, item ∈ items -> ',' ∉ item.toList) ->
      (list items).names = (inline (",".intercalate items)).names) ∧
    (forall tools : ToolList,
      (forall name, name ∈ tools.names -> name ≠ "" ∧ Text.Trimmed name.toList) ∧
      (list tools.names).names = tools.names ∧
      ((forall name, name ∈ tools.names -> ',' ∉ name.toList) ->
        (inline (", ".intercalate tools.names)).names = tools.names)) ∧
    (forall (line name : String), name ∈ (inline line).names -> ',' ∉ name.toList) := by
  refine ⟨fun items => names_list_eq_names_inline, ?_,
    fun line name => comma_not_mem_of_mem_names⟩
  intro tools
  refine ⟨?_, names_list_names tools, names_inline_names⟩
  intro name hname
  exact ⟨(mem_names_iff.mp hname).left, trimmed_of_mem_names hname⟩

/-- Items with blanks beyond ASCII around them, and two with nothing else in them. -/
def paddedItems : List String :=
  ["\u2003Read ", "", "\u00a0\u3000", "mcp__x: y\u0085"]

theorem spellings_agree_padded :
    (forall item, item ∈ paddedItems -> ',' ∉ item.toList) ∧
      (list paddedItems).names = ["Read", "mcp__x: y"] ∧
      (inline "\u2003Read ,,\u00a0\u3000,mcp__x: y\u0085").names = ["Read", "mcp__x: y"] ∧
      (inline "Read, mcp__x: y").names = ["Read", "mcp__x: y"] ∧
      ',' ∉ "Read".toList := by
  have hcommas : forall item, item ∈ paddedItems -> ',' ∉ item.toList := by
    decide +kernel
  have hnames : (list paddedItems).names = ["Read", "mcp__x: y"] := by
    decide +kernel
  have hjoined : ",".intercalate paddedItems = "\u2003Read ,,\u00a0\u3000,mcp__x: y\u0085" := by
    decide +kernel
  rcases spellings_agree with ⟨hsame, hlists, hline⟩
  have hinline := hsame paddedItems hcommas
  rw [hjoined, hnames] at hinline
  have hread : "Read" ∈ (inline "\u2003Read ,,\u00a0\u3000,mcp__x: y\u0085").names := by
    rw [<- hinline]
    decide
  have hrejoined := (hlists (list paddedItems)).right.right
  rw [hnames] at hrejoined
  exact ⟨hcommas, hnames, hinline.symm, hrejoined (by decide +kernel), hline _ _ hread⟩

end ToolList
end AgentFiles
