import AgentFiles.Markdown.Document
import AgentFiles.Proofs.Text.Trimming

/-!
# The grammar of fenced headers

A file with a header is an opening fence, the lines of the header, a closing
fence and anything after it. No line of the header is a fence itself, so that
a file can be taken apart in one way only. Splitting finds that way exactly
when there is one, and a header that was found is found again in a file that is
put together from its parts.
-/

namespace AgentFiles
namespace Markdown

def FenceEnd (blanks : List Char) : Prop :=
  forall c, c ∈ blanks -> Text.isBlank c = true ∧ c ≠ '\n'

/-- A line, without its line feed, of three hyphens and blanks after them. -/
def FenceLine (line : List Char) : Prop :=
  exists blanks, line = fence ++ blanks ∧ Text.allBlank blanks = true

/-- A text with the given header between two fences and the given text after them. -/
def Fenced (content block rest : List Char) : Prop :=
  exists opening closing : List Char, exists inner : List (List Char),
    FenceEnd opening ∧ FenceEnd closing ∧
      (forall line, line ∈ inner -> '\n' ∉ line ∧ ¬ FenceLine line) ∧
      block = joinLines inner ∧
      content =
        fence ++ opening ++ '\n' :: (block ++ (fence ++ closing ++ '\n' :: rest))

/-!
## Lines
-/

theorem lines_append_feed {line : List Char} (hline : '\n' ∉ line)
    (s : List Char) :
    lines (line ++ '\n' :: s) = (line :: (lines s).1, (lines s).2) := by
  induction line with
  | nil =>
      simp [lines]
  | cons c rest ih =>
      have hc : c ≠ '\n' := by
        intro h
        exact hline (by simp [h])
      have hrest : '\n' ∉ rest := by
        intro h
        exact hline (by simp [h])
      rw [List.cons_append, lines, if_neg hc, ih hrest]

theorem joinLines_cons (line : List Char) (others : List (List Char)) :
    joinLines (line :: others) = line ++ '\n' :: joinLines others := by
  simp [joinLines]

theorem lines_joinLines_append {inner : List (List Char)}
    (hinner : forall line, line ∈ inner -> '\n' ∉ line) (s : List Char) :
    lines (joinLines inner ++ s) = (inner ++ (lines s).1, (lines s).2) := by
  induction inner with
  | nil =>
      rfl
  | cons line others ih =>
      have hothers := ih fun l hl => hinner l (List.mem_cons_of_mem _ hl)
      rw [joinLines_cons, List.append_assoc, List.cons_append,
        lines_append_feed (hinner line List.mem_cons_self), hothers]
      rfl

theorem feed_not_mem_of_mem_lines {s line : List Char}
    (hline : line ∈ (lines s).1) : '\n' ∉ line := by
  induction s generalizing line with
  | nil =>
      cases hline
  | cons c rest ih =>
      rw [lines] at hline
      by_cases hc : c = '\n'
      · rw [if_pos hc] at hline
        cases hline with
        | head =>
            simp
        | tail _ htail =>
            exact ih htail
      · rw [if_neg hc] at hline
        cases hl : lines rest with
        | mk full tail =>
            rw [hl] at hline ih
            cases full with
            | nil =>
                cases hline
            | cons first others =>
                cases hline with
                | head =>
                    have hfirst := ih List.mem_cons_self
                    simp [hfirst, Ne.symm hc]
                | tail _ htail =>
                    exact ih (List.mem_cons_of_mem _ htail)

theorem feed_not_mem_tail (s : List Char) : '\n' ∉ (lines s).2 := by
  induction s with
  | nil =>
      simp [lines]
  | cons c rest ih =>
      rw [lines]
      by_cases hc : c = '\n'
      · rw [if_pos hc]
        exact ih
      · rw [if_neg hc]
        cases hl : lines rest with
        | mk full tail =>
            rw [hl] at ih
            cases full with
            | nil =>
                simp [Ne.symm hc, ih]
            | cons line others =>
                exact ih

/-!
## Fences
-/

theorem isFence_append_blank {blanks : List Char}
    (hblank : Text.allBlank blanks = true) :
    isFence (fence ++ blanks) = true := by
  have htrim : Text.trimEnd fence = fence := by decide
  rw [isFence, Text.trimEnd_append_blank fence hblank, htrim]
  rfl

theorem isFence_iff (line : List Char) :
    isFence line = true <-> FenceLine line := by
  constructor
  · intro h
    have htrim : Text.trimEnd line = fence := by
      simpa [isFence] using h
    rcases Text.exists_trimEnd_append line with ⟨blanks, hline, hblank⟩
    exists blanks
    rw [htrim] at hline
    exact ⟨hline, hblank⟩
  · intro h
    rcases h with ⟨blanks, rfl, hblank⟩
    exact isFence_append_blank hblank

theorem isFence_eq_false_iff (line : List Char) :
    isFence line = false <-> ¬ FenceLine line := by
  rw [<- isFence_iff, Bool.not_eq_true]

theorem fenceEnd_blank {blanks : List Char} (h : FenceEnd blanks) :
    Text.allBlank blanks = true :=
  (Text.allBlank_iff blanks).mpr fun c hc => (h c hc).left

theorem fenceEnd_of_no_feed {blanks : List Char}
    (hblank : Text.allBlank blanks = true)
    (hfeed : '\n' ∉ fence ++ blanks) : FenceEnd blanks := by
  intro c hc
  constructor
  · exact (Text.allBlank_iff blanks).mp hblank c hc
  · intro h
    subst h
    exact hfeed (List.mem_append_right fence hc)

theorem feed_not_mem_fence_append {blanks : List Char} (h : FenceEnd blanks) :
    '\n' ∉ fence ++ blanks := by
  intro hmem
  rcases List.mem_append.mp hmem with hfence | hblanks
  · revert hfence
    decide
  · exact (h _ hblanks).right rfl

/-!
## Splitting by lines

The first line that is a fence, after an opening one, closes the header.
-/

theorem split_eq_some_of_lines
    {content first closing tail : List Char} {inner others : List (List Char)}
    (hlines : lines content = (first :: (inner ++ closing :: others), tail))
    (hfirst : isFence first = true) (hclosing : isFence closing = true)
    (hinner : forall line, line ∈ inner -> isFence line = false) :
    split content = some (joinLines inner, joinLines others ++ tail) := by
  have hkeep : forall line, line ∈ inner -> (!isFence line) = true := by
    intro line hline
    rw [hinner line hline]
    rfl
  have htake :
      (inner ++ closing :: others).takeWhile (fun line => !isFence line) =
        inner := by
    rw [List.takeWhile_append_of_pos hkeep]
    simp [hclosing]
  have hdrop :
      (inner ++ closing :: others).dropWhile (fun line => !isFence line) =
        closing :: others := by
    rw [List.dropWhile_append_of_pos hkeep]
    simp [hclosing]
  simp only [split, hlines, hfirst, htake, hdrop, if_true]

theorem lines_of_split_eq_some {content block rest : List Char}
    (hsplit : split content = some (block, rest)) :
    exists first inner closing others tail,
      lines content = (first :: (inner ++ closing :: others), tail) ∧
        isFence first = true ∧ isFence closing = true ∧
        (forall line, line ∈ inner -> isFence line = false) ∧
        block = joinLines inner ∧ rest = joinLines others ++ tail := by
  unfold split at hsplit
  cases hlines : lines content with
  | mk full tail =>
      rw [hlines] at hsplit
      cases full with
      | nil =>
          cases hsplit
      | cons first below =>
          by_cases hfirst : isFence first = true
          · simp only [hfirst, if_true] at hsplit
            cases hdrop : below.dropWhile fun line => !isFence line with
            | nil =>
                rw [hdrop] at hsplit
                cases hsplit
            | cons closing others =>
                rw [hdrop] at hsplit
                cases hsplit
                have hbelow :
                    below =
                      below.takeWhile (fun line => !isFence line) ++
                        closing :: others := by
                  rw [<- hdrop, List.takeWhile_append_dropWhile]
                have hclosing := List.head?_dropWhile_not
                  (fun line => !isFence line) below
                rw [hdrop] at hclosing
                exists first
                exists below.takeWhile fun line => !isFence line
                exists closing, others, tail
                rw [<- hbelow]
                refine ⟨rfl, hfirst, by simpa using hclosing, ?_, rfl, rfl⟩
                intro line hline
                simpa using List.mem_takeWhile_imp hline
          · simp [hfirst] at hsplit

/-!
## Splitting and the grammar
-/

theorem fenced_of_split {content block rest : List Char}
    (hsplit : split content = some (block, rest)) :
    Fenced content block rest := by
  rcases lines_of_split_eq_some hsplit with
    ⟨first, inner, closing, others, tail, hlines, hfirst, hclosing, hinner,
      rfl, rfl⟩
  have hfeed :
      forall line, line ∈ first :: (inner ++ closing :: others) ->
        '\n' ∉ line := by
    intro line hline
    apply feed_not_mem_of_mem_lines (s := content)
    rw [hlines]
    exact hline
  rcases (isFence_iff first).mp hfirst with ⟨opening, rfl, hopening⟩
  rcases (isFence_iff closing).mp hclosing with ⟨ending, rfl, hending⟩
  exists opening, ending, inner
  refine ⟨fenceEnd_of_no_feed hopening (hfeed _ (by simp)),
    fenceEnd_of_no_feed hending (hfeed _ (by simp)), ?_, rfl, ?_⟩
  · intro line hline
    constructor
    · exact hfeed line (by simp [hline])
    · exact (isFence_eq_false_iff line).mp (hinner line hline)
  · have hcontent := joinLines_lines content
    rw [hlines] at hcontent
    rw [<- hcontent]
    simp [joinLines]

theorem split_of_fenced {content block rest : List Char}
    (hfenced : Fenced content block rest) :
    split content = some (block, rest) := by
  rcases hfenced with
    ⟨opening, ending, inner, hopening, hending, hinner, rfl, rfl⟩
  have hlines :
      lines
          (fence ++ opening ++
            '\n' :: (joinLines inner ++ (fence ++ ending ++ '\n' :: rest))) =
        ((fence ++ opening) :: (inner ++ (fence ++ ending) :: (lines rest).1),
          (lines rest).2) := by
    rw [lines_append_feed (feed_not_mem_fence_append hopening),
      lines_joinLines_append fun line hline => (hinner line hline).left,
      lines_append_feed (feed_not_mem_fence_append hending)]
  rw [split_eq_some_of_lines hlines
    (isFence_append_blank (fenceEnd_blank hopening))
    (isFence_append_blank (fenceEnd_blank hending))
    fun line hline =>
      (isFence_eq_false_iff line).mpr (hinner line hline).right]
  rw [joinLines_lines]

theorem split_eq_some_iff (content block rest : List Char) :
    split content = some (block, rest) <-> Fenced content block rest := by
  constructor
  · exact fenced_of_split
  · exact split_of_fenced

theorem fenced_unique {content block rest block' rest' : List Char}
    (h : Fenced content block rest) (h' : Fenced content block' rest') :
    block = block' ∧ rest = rest' := by
  have heq := (split_of_fenced h).symm.trans (split_of_fenced h')
  simpa using heq

/-!
## Putting a file together again
-/

def enclose (block body : List Char) : List Char :=
  fence ++ '\n' :: (block ++ (fence ++ '\n' :: body))

/-- What follows a closing fence does not matter to the header before it. -/
theorem fenced_enclose {content block rest : List Char}
    (hfenced : Fenced content block rest) (body : List Char) :
    Fenced (enclose block body) block body := by
  rcases hfenced with ⟨_, _, inner, _, _, hinner, rfl, _⟩
  exists [], [], inner
  refine ⟨?_, ?_, hinner, rfl, ?_⟩
  · intro c hc
    cases hc
  · intro c hc
    cases hc
  · simp [enclose]

theorem split_enclose {inner : List (List Char)}
    (hinner : forall line, line ∈ inner -> '\n' ∉ line ∧ ¬ FenceLine line)
    (body : List Char) :
    split (enclose (joinLines inner) body) = some (joinLines inner, body) := by
  apply split_of_fenced
  exists [], [], inner
  refine ⟨by simp [FenceEnd], by simp [FenceEnd], hinner, rfl, ?_⟩
  simp [enclose]

/-- The text up to the line feed of the closing fence decides where the header ends. -/
theorem exists_front_of_split {content block rest : List Char}
    (hsplit : split content = some (block, rest)) :
    exists front : List Char,
      content = front ++ rest ∧
        forall other, split (front ++ other) = some (block, other) := by
  rcases fenced_of_split hsplit with
    ⟨opening, closing, inner, hopening, hclosing, hinner, hblock, hcontent⟩
  exists fence ++ opening ++ '\n' :: (block ++ (fence ++ closing ++ ['\n']))
  constructor
  · simpa using hcontent
  · intro other
    apply split_of_fenced
    exact ⟨opening, closing, inner, hopening, hclosing, hinner, hblock,
      by simp⟩

theorem parse_of_split {content : String} {block rest : List Char}
    {entries : List (Yaml.Value × Yaml.Value)}
    (hsplit : split content.toList = some (block, rest))
    (hblock : blockOf (String.ofList block) = .header entries) :
    parse content = ⟨.header entries, String.ofList (Text.trim rest)⟩ := by
  simp only [parse, hsplit, hblock]

theorem ofText_of_blockOf {text : String}
    {entries : List (Yaml.Value × Yaml.Value)}
    (hblock : blockOf text = .header entries) :
    Yaml.Value.ofText text = .ok (.mapping entries) := by
  unfold blockOf at hblock
  split at hblock
  · rename_i hvalue
    cases hblock
    exact hvalue
  · cases hblock
  · cases hblock

theorem split_of_hasHeader {content : String}
    (hheader : (parse content).hasHeader = true) :
    exists block rest entries,
      split content.toList = some (block, rest) ∧
        blockOf (String.ofList block) = .header entries ∧
        parse content =
          ⟨.header entries, String.ofList (Text.trim rest)⟩ := by
  cases hsplit : split content.toList with
  | none =>
      simp [parse, hsplit, Document.hasHeader, Document.entries?] at hheader
  | some parts =>
      rcases parts with ⟨block, rest⟩
      cases hblock : blockOf (String.ofList block) with
      | header entries =>
          exact ⟨block, rest, entries, rfl, hblock,
            parse_of_split hsplit hblock⟩
      | absent | stray | unreadable =>
          simp [parse, hsplit, hblock, Document.hasHeader,
            Document.entries?] at hheader

theorem toList_enclose (block : List Char) (body : String) :
    ("---\n" ++ String.ofList block ++ "---\n" ++ body).toList =
      enclose block body.toList := by
  simp [enclose, fence]

theorem parse_enclose {content : String} {block rest : List Char}
    (hsplit : split content.toList = some (block, rest))
    (hheader : (parse content).hasHeader = true) :
    parse ("---\n" ++ String.ofList block ++ "---\n" ++ (parse content).body) =
      parse content := by
  rcases split_of_hasHeader hheader with
    ⟨block', rest', entries, hsplit', hblock, hparse⟩
  rw [hsplit] at hsplit'
  cases hsplit'
  have hagain :
      split ("---\n" ++ String.ofList block ++ "---\n" ++
          (parse content).body).toList =
        some (block, (parse content).body.toList) := by
    rw [toList_enclose]
    exact split_of_fenced (fenced_enclose (fenced_of_split hsplit) _)
  rw [parse_of_split hagain hblock, hparse]
  simp [Text.trim_trim]

/-!
## The grammar as a whole
-/

/--
Splitting accepts the grammar and nothing else, in one way, whatever stands
after the closing fence; and no part of a header is lost.
-/
theorem split_grammar_lossless :
    (forall content block rest : List Char,
      split content = some (block, rest) <-> Fenced content block rest) ∧
    (forall content block rest block' rest' : List Char,
      Fenced content block rest -> Fenced content block' rest' ->
        block = block' ∧ rest = rest') ∧
    (forall content block rest : List Char,
      split content = some (block, rest) ->
        exists front : List Char,
          content = front ++ rest ∧
            forall other, split (front ++ other) = some (block, other)) ∧
    (forall (content : String) (block rest : List Char),
      split content.toList = some (block, rest) ->
      (parse content).hasHeader = true ->
        parse ("---\n" ++ String.ofList block ++ "---\n" ++
          (parse content).body) = parse content) := by
  refine ⟨split_eq_some_iff, ?_, ?_, ?_⟩
  · intro content block rest block' rest' h h'
    exact fenced_unique h h'
  · intro content block rest hsplit
    exact exists_front_of_split hsplit
  · intro content block rest hsplit hheader
    exact parse_enclose hsplit hheader

theorem split_grammar_lossless_carriage_returns :
    split "---\u00a0\r\nx: 1\r\n---\t\r\n---\nb".toList =
        some ("x: 1\r\n".toList, "---\nb".toList) ∧
      Fenced "---\u00a0\r\nx: 1\r\n---\t\r\n---\nb".toList
        "x: 1\r\n".toList "---\nb".toList ∧
      (parse "---\u00a0\r\nx: 1\r\n---\t\r\n---\nb").hasHeader = true ∧
      parse ("---\n" ++ String.ofList "x: 1\r\n".toList ++ "---\n" ++
          (parse "---\u00a0\r\nx: 1\r\n---\t\r\n---\nb").body) =
        parse "---\u00a0\r\nx: 1\r\n---\t\r\n---\nb" := by
  have hsplit :
      split "---\u00a0\r\nx: 1\r\n---\t\r\n---\nb".toList =
        some ("x: 1\r\n".toList, "---\nb".toList) := by
    decide +kernel
  have hheader :
      (parse "---\u00a0\r\nx: 1\r\n---\t\r\n---\nb").hasHeader = true := by
    decide +kernel
  exact ⟨hsplit, (split_grammar_lossless.left _ _ _).mp hsplit, hheader,
    split_grammar_lossless.right.right.right _ _ _ hsplit hheader⟩

end Markdown
end AgentFiles
