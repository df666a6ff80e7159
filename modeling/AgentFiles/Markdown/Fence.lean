import AgentFiles.Text.Blank

/-!
# Fences

A header stands between two fences at the start of a file. A fence is a line of three hyphens with
nothing but blanks after them, and it ends with a line feed. The first line has to be a fence, and
the next fence closes the header.
-/

namespace AgentFiles
namespace Markdown

/-- The lines of a text that end with a line feed, without it, and the text after the last one. -/
def lines : List Char -> List (List Char) × List Char
  | [] => ([], [])
  | c :: rest =>
    if c = '\n' then ([] :: (lines rest).1, (lines rest).2)
    else
      match lines rest with
      | (line :: others, tail) => ((c :: line) :: others, tail)
      | ([], tail) => ([], c :: tail)

def joinLines (lines : List (List Char)) : List Char :=
  lines.flatMap fun line => line ++ ['\n']

theorem joinLines_lines (s : List Char) : joinLines (lines s).1 ++ (lines s).2 = s := by
  induction s with
  | nil =>
      rfl
  | cons c rest ih =>
      by_cases h : c = '\n'
      · simpa [lines, h, joinLines] using ih
      · rcases hl : lines rest with ⟨_ | ⟨line, others⟩, tail⟩ <;>
          simpa [lines, h, hl, joinLines] using ih

def fence : List Char :=
  ['-', '-', '-']

def isFence (line : List Char) : Bool :=
  Text.trimEnd line == fence

def split (content : List Char) : Option (List Char × List Char) :=
  match lines content with
  | (first :: others, tail) =>
    if isFence first then
      match others.dropWhile fun line => !isFence line with
      | _ :: rest =>
        some (joinLines (others.takeWhile fun line => !isFence line), joinLines rest ++ tail)
      | [] => none
    else none
  | ([], _) => none

end Markdown
end AgentFiles
