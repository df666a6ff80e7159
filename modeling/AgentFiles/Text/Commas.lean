/-!
# Commas between texts

Texts are joined by a comma between any two of them, and a text is split at each of its commas.
-/

namespace AgentFiles
namespace Text

def joinCommas (texts : List (List Char)) : List Char :=
  [','].intercalate texts

/-- The pieces of a text between its commas, at least one. -/
def splitCommas : List Char -> List (List Char)
  | [] => [[]]
  | c :: rest =>
    if c == ',' then [] :: splitCommas rest
    else
      match splitCommas rest with
      | piece :: pieces => (c :: piece) :: pieces
      | [] => [[c]]

end Text
end AgentFiles
