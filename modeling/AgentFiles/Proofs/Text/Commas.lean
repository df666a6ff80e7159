import AgentFiles.Text.Commas

/-!
# Joining and splitting at commas

Each text but the first has a comma before it where texts are joined, and splitting there gives the
texts again if none of them has a comma of its own.
-/

namespace AgentFiles
namespace Text

/-!
## Joining
-/

theorem joinCommas_singleton (text : List Char) : joinCommas [text] = text :=
  List.intercalate_singleton

theorem joinCommas_cons (text : List Char) (texts : List (List Char)) :
    joinCommas (text :: texts) = text ++ texts.flatMap (',' :: ·) := by
  induction texts generalizing text with
  | nil =>
      rw [joinCommas_singleton, List.flatMap_nil, List.append_nil]
  | cons next texts ih =>
      rw [joinCommas, List.intercalate_cons_cons, <- joinCommas, ih, List.flatMap_cons]
      simp

theorem mem_joinCommas {c : Char} {text : List Char} {texts : List (List Char)}
    (htext : text ∈ texts) (hc : c ∈ text) : c ∈ joinCommas texts := by
  cases texts with
  | nil =>
      cases htext
  | cons first rest =>
      rw [joinCommas_cons]
      apply List.mem_append.mpr
      rcases List.mem_cons.mp htext with rfl | hrest
      · exact Or.inl hc
      · exact Or.inr (List.mem_flatMap_of_mem hrest (List.mem_cons_of_mem ',' hc))

/-- A blank behind each comma stands in front of each text but the first. -/
theorem intercalate_spaced (first : List Char) (texts : List (List Char)) :
    [',', ' '].intercalate (first :: texts) = joinCommas (first :: texts.map (' ' :: ·)) := by
  induction texts generalizing first with
  | nil =>
      rfl
  | cons second texts ih =>
      rw [List.intercalate_cons_cons, ih, joinCommas_cons, joinCommas_cons]
      simp

/-!
## Splitting

A comma begins a new piece, and any other character goes to the front of the first piece.
-/

theorem splitCommas_comma (s : List Char) : splitCommas (',' :: s) = [] :: splitCommas s :=
  rfl

theorem exists_splitCommas_cons {c : Char} (hc : c ≠ ',') (s : List Char) :
    exists first rest, splitCommas s = first :: rest ∧
      splitCommas (c :: s) = (c :: first) :: rest := by
  induction s generalizing c with
  | nil =>
      refine ⟨[], [], rfl, ?_⟩
      simp [splitCommas, hc]
  | cons d s ih =>
      by_cases hd : d = ','
      · refine ⟨[], splitCommas s, ?_, ?_⟩
        · rw [hd, splitCommas_comma]
        · rw [hd, splitCommas, splitCommas_comma, if_neg (by simpa using hc)]
      · rcases ih hd with ⟨first, rest, _, hpieces⟩
        refine ⟨d :: first, rest, hpieces, ?_⟩
        rw [splitCommas, hpieces, if_neg (by simpa using hc)]

theorem comma_not_mem_of_mem_splitCommas {s piece : List Char}
    (hpiece : piece ∈ splitCommas s) : ',' ∉ piece := by
  induction s generalizing piece with
  | nil =>
      cases List.mem_singleton.mp hpiece
      nofun
  | cons c s ih =>
      by_cases hc : c = ','
      · rw [hc, splitCommas_comma] at hpiece
        rcases List.mem_cons.mp hpiece with rfl | hrest
        · nofun
        · exact ih hrest
      · rcases exists_splitCommas_cons hc s with ⟨first, rest, hbefore, hpieces⟩
        rw [hbefore, List.forall_mem_cons] at ih
        rw [hpieces] at hpiece
        rcases List.mem_cons.mp hpiece with rfl | hrest
        · exact List.not_mem_cons_of_ne_of_not_mem (Ne.symm hc) ih.left
        · exact ih.right piece hrest

theorem splitCommas_eq_splitOn (s : List Char) : splitCommas s = s.splitOn ',' := by
  induction s with
  | nil =>
      rfl
  | cons c s ih =>
      rw [List.splitOn_cons_eq_if_modifyHead, <- ih]
      by_cases hc : c = ','
      · rw [hc, splitCommas_comma]
        rfl
      · rcases exists_splitCommas_cons hc s with ⟨first, rest, hbefore, hpieces⟩
        rw [hpieces, hbefore, if_neg (by simpa using hc)]
        rfl

theorem splitCommas_joinCommas {texts : List (List Char)}
    (hcommas : forall s, s ∈ texts -> ',' ∉ s) (hne : texts ≠ []) :
    splitCommas (joinCommas texts) = texts := by
  rw [splitCommas_eq_splitOn]
  exact List.splitOn_intercalate ',' hcommas hne

end Text
end AgentFiles
