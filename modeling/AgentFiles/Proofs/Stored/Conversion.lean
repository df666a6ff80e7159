import AgentFiles.Stored

/-!
# Files as snippets and snippets as files

A file that becomes a snippet and a file again loses its type and nothing else, and its
language stands for the type from then on. A snippet becomes a file if it has a fragment,
and of its fragments only the first one counts. What the first trip drops is all that is
ever dropped: the file of a snippet comes back as it is.
-/

namespace AgentFiles
namespace StoredFile

variable {file : StoredFile} {snippet : Snippet} {first : Fragment} {rest : List Fragment}

/-!
## From a file and back
-/

/-- The language stands for the type of the file that comes back, also where the file has no
name, as its empty name is the title as well. -/
theorem ofSnippet?_toSnippet (file : StoredFile) :
    ofSnippet? file.toSnippet = some { file with fileType := file.language } := by
  simp [ofSnippet?, toSnippet]

theorem ofSnippet?_toSnippet_eq_some_iff :
    ofSnippet? file.toSnippet = some file <-> file.fileType = file.language := by
  rw [ofSnippet?_toSnippet, Option.some_inj]
  constructor
  · intro hsame
    rw [<- hsame]
  · intro htype
    cases file
    cases htype
    rfl

/-!
## From a snippet
-/

theorem ofSnippet?_eq_none_iff : ofSnippet? snippet = none <-> snippet.fragments = [] := by
  rw [ofSnippet?, Option.map_eq_none_iff, List.head?_eq_none_iff]

theorem ofSnippet?_of_first (hfragments : snippet.fragments = first :: rest) :
    exists file, ofSnippet? snippet = some file ∧
      file.content = first.code ∧ file.language = first.language ∧
      file.fileType = first.language ∧
      file.fileName = if first.fileName = "" then snippet.title else first.fileName := by
  rw [ofSnippet?, hfragments, List.head?_cons, Option.map_some]
  exact ⟨_, rfl, rfl, rfl, rfl, rfl⟩

theorem ofSnippet?_congr_first (hfragments : snippet.fragments = first :: rest)
    (categories : List String) (others : List Fragment) :
    ofSnippet? { snippet with categories := categories, fragments := first :: others } =
      ofSnippet? snippet := by
  simp [ofSnippet?, hfragments]

/--
A file comes back from its snippet with its language as its type, and so unchanged exactly if
that was its type. A snippet without fragments gives no file. Of any other the file comes back
unchanged, and the snippet that it comes back from has the first fragment of the one it was
made of as its only one, with the title in place of an empty name. The categories and the
fragments behind the first do not matter.
-/
theorem conversion_settles :
    (forall file : StoredFile,
      ofSnippet? file.toSnippet = some { file with fileType := file.language } ∧
      (ofSnippet? file.toSnippet = some file <-> file.fileType = file.language)) ∧
    (forall snippet : Snippet, ofSnippet? snippet = none <-> snippet.fragments = []) ∧
    (forall (snippet : Snippet) (first : Fragment) (rest : List Fragment),
      snippet.fragments = first :: rest ->
        exists file, ofSnippet? snippet = some file ∧
          ofSnippet? file.toSnippet = some file ∧
          (exists only, file.toSnippet.fragments = [only] ∧
            only.code = first.code ∧ only.language = first.language ∧
            only.fileName = if first.fileName = "" then snippet.title else first.fileName) ∧
          forall (categories : List String) (others : List Fragment),
            ofSnippet?
                { snippet with categories := categories, fragments := first :: others } =
              some file) := by
  refine ⟨?_, fun snippet => ofSnippet?_eq_none_iff, ?_⟩
  · intro file
    exact ⟨ofSnippet?_toSnippet file, ofSnippet?_toSnippet_eq_some_iff⟩
  · intro snippet first rest hfragments
    rcases ofSnippet?_of_first hfragments with
      ⟨file, hfile, hcontent, hlanguage, htype, hname⟩
    refine ⟨file, hfile, ?_, ⟨_, rfl, hcontent, hlanguage, hname⟩, ?_⟩
    · exact ofSnippet?_toSnippet_eq_some_iff.mpr (htype.trans hlanguage.symm)
    · intro categories others
      rw [ofSnippet?_congr_first hfragments, hfile]

def unnamedSnippet : Snippet :=
  { title := "Reviewer", categories := ["other"], isPublic := 1,
    fragments :=
      [{ id := some "f", code := "a", language := "claude-agent", position := 4 },
        { fileName := "b.md", code := "b" }] }

theorem conversion_settles_unnamed :
    exists file, ofSnippet? unnamedSnippet = some file ∧
      ofSnippet? file.toSnippet = some file ∧
      (exists only, file.toSnippet.fragments = [only] ∧ only.code = "a" ∧
        only.language = "claude-agent" ∧ only.fileName = "Reviewer") ∧
      ofSnippet? { unnamedSnippet with
          categories := [], fragments := unnamedSnippet.fragments.take 1 } = some file := by
  rcases conversion_settles.right.right unnamedSnippet _ _ rfl with
    ⟨file, hfile, hagain, honly, hothers⟩
  exact ⟨file, hfile, hagain, honly, hothers [] []⟩

end StoredFile
end AgentFiles
