/-!
# Texts inside of texts
-/

namespace AgentFiles
namespace Text

/-- Whether the second text has the first one somewhere in it. -/
def holds (part : List Char) : List Char -> Bool
  | [] => part.isEmpty
  | c :: rest => part.isPrefixOf (c :: rest) || holds part rest

theorem holds_iff_infix {part s : List Char} : holds part s = true <-> part <:+: s := by
  induction s with
  | nil =>
      simp [holds]
  | cons c rest ih =>
      simp [holds, ih, List.infix_cons_iff]

end Text
end AgentFiles
