import AgentFiles.Naming
import AgentFiles.Proofs.Text.Commas
import Mathlib.Data.List.Forall2

/-!
# Same values

Two values that are the same have the same text, if they are texts, and the same
plain text, but for one thing: zero keeps its sign in a plain text. The plain
text of zero has a point, so no check that refuses points tells same values
apart.
-/

namespace AgentFiles
namespace Yaml
namespace Value

def AlikeTexts (s t : List Char) : Prop :=
  s = t ∨ ('.' ∈ s ∧ '.' ∈ t)

theorem AlikeTexts.refl (s : List Char) : AlikeTexts s s :=
  Or.inl rfl

/-!
## Numbers
-/

theorem point_mem_numberText_of_isZero {x : Binary64} (hx : x.isZero = true) :
    '.' ∈ (numberText (.decimal x)).toList := by
  cases x with
  | finite negative m q =>
      have hm : m = 0 := by simpa [Binary64.isZero] using hx
      cases negative <;>
        simp [numberText, Binary64.text, Binary64.magnitudeText,
          Binary64.isNegative, hm]
  | infinite negative =>
      cases hx
  | nan =>
      cases hx

theorem alikeTexts_number {a b : Number} (h : a.same b = true) :
    AlikeTexts (numberText a).toList (numberText b).toList := by
  cases a with
  | integer i =>
      cases b with
      | integer j =>
          have hij : i = j := by simpa [Number.same] using h
          rw [hij]
          exact AlikeTexts.refl _
      | decimal y =>
          cases h
  | decimal x =>
      cases b with
      | integer j =>
          cases h
      | decimal y =>
          have hxy : x = y ∨ (x.isZero = true ∧ y.isZero = true) := by
            simpa [Number.same, Binary64.sameNumber] using h
          rcases hxy with heq | ⟨hx, hy⟩
          · exact Or.inl (by rw [heq])
          · exact Or.inr ⟨point_mem_numberText_of_isZero hx,
              point_mem_numberText_of_isZero hy⟩

/-!
## Plain texts
-/

theorem plainText_number (n : Number) :
    (number n).plainText = (numberText n).toList :=
  rfl

theorem plainText_sequence (items : List Value) :
    (sequence items).plainText = Text.joinCommas (itemTexts items) :=
  rfl

theorem plainText_mapping (entries : List (Value × Value)) :
    (mapping entries).plainText = "[object Object]".toList :=
  rfl

theorem plainText_tagged (tag : String) (value : Value) :
    (tagged tag value).plainText = value.plainText :=
  rfl

theorem itemTexts_cons {value : Value} (hvalue : value ≠ .null)
    (rest : List Value) :
    itemTexts (value :: rest) = value.plainText :: itemTexts rest := by
  cases value with
  | null =>
      exact absurd rfl hvalue
  | bool | number | string | sequence | mapping | tagged =>
      rfl

/-!
## Sequences
-/

theorem alikeTexts_joinCommas {texts texts' : List (List Char)}
    (h : List.Forall₂ AlikeTexts texts texts') :
    AlikeTexts (Text.joinCommas texts) (Text.joinCommas texts') := by
  have hlists : texts = texts' ∨
      ((exists text, text ∈ texts ∧ '.' ∈ text) ∧
        exists text, text ∈ texts' ∧ '.' ∈ text) := by
    induction h with
    | nil =>
        exact Or.inl rfl
    | cons hfirst hrest ih =>
        rcases hfirst with heq | ⟨hleft, hright⟩
        · rcases ih with hothers |
            ⟨⟨text, htext, hpoint⟩, ⟨text', htext', hpoint'⟩⟩
          · exact Or.inl (by rw [heq, hothers])
          · exact Or.inr
              ⟨⟨text, List.mem_cons_of_mem _ htext, hpoint⟩,
                ⟨text', List.mem_cons_of_mem _ htext', hpoint'⟩⟩
        · exact Or.inr
            ⟨⟨_, List.mem_cons_self, hleft⟩, ⟨_, List.mem_cons_self, hright⟩⟩
  rcases hlists with heq | ⟨⟨text, htext, hpoint⟩, ⟨text', htext', hpoint'⟩⟩
  · rw [heq]
    exact AlikeTexts.refl _
  · exact Or.inr ⟨Text.mem_joinCommas htext hpoint, Text.mem_joinCommas htext' hpoint'⟩

/-!
## Values
-/

inductive Matches : Value -> Value -> Prop where
  | null : Matches .null .null
  | bool (b : Bool) : Matches (.bool b) (.bool b)
  | number {a b : Number} (h : a.same b = true) : Matches (.number a) (.number b)
  | string (s : String) : Matches (.string s) (.string s)
  | sequence {as bs : List Value} (h : sameItems as bs = true) :
    Matches (.sequence as) (.sequence bs)
  | mapping (as bs : List (Value × Value)) : Matches (.mapping as) (.mapping bs)
  | tagged (s t : String) {a b : Value} (h : same a b = true) :
    Matches (.tagged s a) (.tagged t b)

theorem matches_of_same {a b : Value} (h : same a b = true) : Matches a b := by
  cases a <;> cases b <;>
    simp only [same, Bool.false_eq_true, beq_iff_eq, Bool.and_eq_true] at h
  · exact .null
  · rw [h]
    exact .bool _
  · exact .number h
  · rw [h]
    exact .string _
  · exact .sequence h
  · exact .mapping _ _
  · exact .tagged _ _ h.right

theorem sameItems_inversion {as bs : List Value}
    (h : sameItems as bs = true) :
    (as = [] ∧ bs = []) ∨
      exists a rest b others, as = a :: rest ∧ bs = b :: others ∧
        same a b = true ∧ sameItems rest others = true := by
  cases as with
  | nil =>
      cases bs with
      | nil =>
          exact Or.inl ⟨rfl, rfl⟩
      | cons b others =>
          simp [sameItems] at h
  | cons a rest =>
      cases bs with
      | nil =>
          simp [sameItems] at h
      | cons b others =>
          simp only [sameItems, Bool.and_eq_true] at h
          exact Or.inr ⟨a, rest, b, others, rfl, rfl, h.left, h.right⟩

mutual

theorem alikeTexts_of_same (a : Value) : forall {b : Value},
    same a b = true -> AlikeTexts a.plainText b.plainText := by
  intro b h
  cases matches_of_same h with
  | null | bool | string =>
      exact AlikeTexts.refl _
  | mapping as bs =>
      rw [plainText_mapping, plainText_mapping]
      exact AlikeTexts.refl _
  | number hnumber =>
      rw [plainText_number, plainText_number]
      exact alikeTexts_number hnumber
  | sequence hitems =>
      rename_i as bs
      rw [plainText_sequence, plainText_sequence]
      exact alikeTexts_joinCommas (alikeTexts_of_sameItems as hitems)
  | tagged s t hvalue =>
      rename_i a b
      rw [plainText_tagged, plainText_tagged]
      exact alikeTexts_of_same a hvalue
termination_by sizeOf a

theorem alikeTexts_of_sameItems (as : List Value) : forall {bs : List Value},
    sameItems as bs = true ->
      List.Forall₂ AlikeTexts (itemTexts as) (itemTexts bs) := by
  intro bs h
  rcases sameItems_inversion h with
    ⟨rfl, rfl⟩ | ⟨a, rest, b, others, rfl, rfl, hfirst, hrest⟩
  · exact List.Forall₂.nil
  · have htexts := alikeTexts_of_sameItems rest hrest
    by_cases ha : a = .null
    · subst ha
      cases matches_of_same hfirst
      exact List.Forall₂.cons (AlikeTexts.refl _) htexts
    · have hb : b ≠ .null := by
        intro hb
        subst hb
        cases matches_of_same hfirst
        exact ha rfl
      rw [itemTexts_cons ha, itemTexts_cons hb]
      exact List.Forall₂.cons (alikeTexts_of_same a hfirst) htexts
termination_by sizeOf as

end

theorem text?_of_same (a : Value) : forall {b : Value},
    same a b = true -> a.text? = b.text? := by
  intro b h
  cases matches_of_same h with
  | null | bool | number | string | sequence | mapping =>
      rfl
  | tagged s t hvalue =>
      rename_i a b
      simpa [text?, untag] using text?_of_same a hvalue
termination_by sizeOf a

end Value
end Yaml
end AgentFiles
