import AgentFiles.Proofs.Yaml.Sameness

/-!
# Values that patterns admit

Names and dated models are patterns for texts, and of any other value the plain text
is looked at. A text that a pattern admits is not empty and has no character that an
agent may not have in its name, such as a comma or a bracket. A pattern therefore
admits no mapping, and a sequence only if it has one item, which is not null and is
itself admitted. Tags, and sequences of one item, may be nested around a value in any
way.
-/

namespace AgentFiles

/-!
## Names
-/

namespace Naming

theorem allows_hyphensOnly_iff (c : Char) :
    hyphensOnly.allows c = true <-> underscores.allows c = true ∧ c ≠ '_' := by
  by_cases hc : c = '_'
  · subst hc
    decide
  · simp [allows, hc]

theorem admits_hyphensOnly_iff (name : List Char) :
    hyphensOnly.admits name = true <->
      underscores.admits name = true ∧ '_' ∉ name := by
  simp only [admits, Bool.and_eq_true, List.all_eq_true, allows_hyphensOnly_iff]
  constructor
  · rintro ⟨hfilled, hall⟩
    exact ⟨⟨hfilled, fun c hc => (hall c hc).1⟩, fun hmem => (hall '_' hmem).2 rfl⟩
  · rintro ⟨⟨hfilled, hall⟩, hnone⟩
    refine ⟨hfilled, fun c hc => ⟨hall c hc, ?_⟩⟩
    rintro rfl
    exact hnone hc

theorem admits_of_not_allowed {naming : Naming} {c : Char} {name : List Char}
    (hc : c ∈ name) (hallows : naming.allows c = false) : naming.admits name = false := by
  have hall : name.all naming.allows = false :=
    List.all_eq_false.mpr ⟨c, hc, by simp [hallows]⟩
  rw [admits, hall, Bool.and_false]

end Naming

/-!
## Patterns
-/

inductive TextPattern where
  | name (naming : Naming)
  | datedModel
deriving DecidableEq, Repr

theorem Naming.hyphensOnly_allows_digit {c : Char} (hc : Text.isDigit c = true) :
    hyphensOnly.allows c = true := by
  rw [Text.isDigit] at hc
  simp [allows, hc]

theorem Model.admits_of_isDated {model : List Char} (h : isDated model = true) :
    Naming.hyphensOnly.admits model = true := by
  have hstems : forall stem, stem ∈ aliases ->
      Naming.hyphensOnly.admits ("claude-" ++ stem ++ "-").toList = true := by
    decide
  rcases List.any_eq_true.mp h with ⟨stem, hstem, hdated⟩
  simp only [Bool.and_eq_true, List.isPrefixOf_iff_prefix] at hdated
  rcases hdated with ⟨⟨⟨date, rfl⟩, _⟩, hdigits⟩
  rw [List.drop_left, List.all_eq_true] at hdigits
  have hadmitted := hstems stem hstem
  simp only [Naming.admits, Bool.and_eq_true, List.all_append, List.all_eq_true]
    at hadmitted ⊢
  refine ⟨?_, hadmitted.right, fun c hc =>
    Naming.hyphensOnly_allows_digit (hdigits c hc)⟩
  simp

namespace TextPattern

def admits : TextPattern -> List Char -> Bool
  | name naming => naming.admits
  | datedModel => Model.isDated

section Texts

variable (pattern : TextPattern) {text : List Char}

theorem underscores_of_admits {pattern : TextPattern} (h : pattern.admits text = true) :
    Naming.underscores.admits text = true := by
  cases pattern with
  | name naming =>
      cases naming with
      | underscores =>
          exact h
      | hyphensOnly =>
          exact ((Naming.admits_hyphensOnly_iff text).mp h).left
  | datedModel =>
      exact ((Naming.admits_hyphensOnly_iff text).mp (Model.admits_of_isDated h)).left

theorem admits_eq_false (h : Naming.underscores.admits text = false) :
    pattern.admits text = false := by
  cases hadmits : pattern.admits text with
  | false =>
      rfl
  | true =>
      rw [underscores_of_admits hadmits] at h
      cases h

theorem admits_nil : pattern.admits [] = false :=
  pattern.admits_eq_false rfl

theorem admits_of_not_allowed {c : Char} (hc : c ∈ text)
    (hallows : Naming.underscores.allows c = false) : pattern.admits text = false :=
  pattern.admits_eq_false (Naming.admits_of_not_allowed hc hallows)

end Texts

end TextPattern

/-!
## Values
-/

namespace Yaml
namespace Value

def isScalar : Value -> Bool
  | .null | .bool _ | .number _ | .string _ => true
  | .sequence _ | .mapping _ | .tagged _ _ => false

/-- The values that a pattern admits: a scalar by its own text, a value under a tag if
it is admitted itself, and a sequence by its only item, unless that is null. -/
inductive Admitted (pattern : TextPattern) : Value -> Prop where
  | scalar {value : Value} (hvalue : value.isScalar = true)
      (htext : pattern.admits value.plainText = true) : Admitted pattern value
  | tagged (tag : String) {value : Value} (hvalue : Admitted pattern value) :
      Admitted pattern (.tagged tag value)
  | item {value : Value} (hnull : value ≠ .null) (hvalue : Admitted pattern value) :
      Admitted pattern (.sequence [value])

theorem plainText_item {value : Value} (hnull : value ≠ .null) :
    (sequence [value]).plainText = value.plainText := by
  rw [plainText_sequence, itemTexts_cons hnull]
  exact Text.joinCommas_singleton value.plainText

theorem exists_itemTexts_cons (value : Value) (rest : List Value) :
    exists text, itemTexts (value :: rest) = text :: itemTexts rest := by
  cases value with
  | null =>
      exact ⟨[], rfl⟩
  | bool | number | string | sequence | mapping | tagged =>
      exact ⟨_, itemTexts_cons (by simp) rest⟩

/-- Two items have a comma between them, also if they are null. -/
theorem comma_mem_plainText (first second : Value) (rest : List Value) :
    ',' ∈ (sequence (first :: second :: rest)).plainText := by
  rcases exists_itemTexts_cons first (second :: rest) with ⟨text, hfirst⟩
  rcases exists_itemTexts_cons second rest with ⟨text', hsecond⟩
  rw [plainText_sequence, hfirst, hsecond, Text.joinCommas_cons]
  simp

section Patterns

variable (pattern : TextPattern)

theorem not_admits_mapping (entries : List (Value × Value)) :
    pattern.admits (mapping entries).plainText = false := by
  rw [plainText_mapping]
  exact pattern.admits_of_not_allowed (show '[' ∈ _ by decide) (by decide)

theorem not_admits_sequence {items : List Value} (hitems : items.length ≠ 1) :
    pattern.admits (sequence items).plainText = false := by
  match items with
  | [] =>
      exact pattern.admits_nil
  | [_] =>
      exact absurd rfl hitems
  | first :: second :: rest =>
      exact pattern.admits_of_not_allowed (comma_mem_plainText first second rest)
        (by decide)

theorem admits_of_admitted {value : Value} (h : Admitted pattern value) :
    pattern.admits value.plainText = true := by
  induction h with
  | scalar hvalue htext =>
      exact htext
  | tagged tag hvalue ih =>
      rw [plainText_tagged]
      exact ih
  | item hnull hvalue ih =>
      rw [plainText_item hnull]
      exact ih

theorem admitted_of_admits (value : Value)
    (h : pattern.admits value.plainText = true) : Admitted pattern value := by
  match value with
  | .null | .bool _ | .number _ | .string _ =>
      exact .scalar rfl h
  | .tagged tag value =>
      rw [plainText_tagged] at h
      exact .tagged tag (admitted_of_admits value h)
  | .mapping entries =>
      rw [not_admits_mapping] at h
      cases h
  | .sequence [value] =>
      by_cases hnull : value = .null
      · subst hnull
        exact absurd (h.symm.trans pattern.admits_nil) (by decide)
      · rw [plainText_item hnull] at h
        exact .item hnull (admitted_of_admits value h)
  | .sequence [] =>
      rw [not_admits_sequence pattern (by decide)] at h
      cases h
  | .sequence (first :: second :: rest) =>
      rw [not_admits_sequence pattern (by simp)] at h
      cases h
termination_by sizeOf value

end Patterns

/-!
## Nesting
-/

inductive Shell where
  | tag (tag : String)
  | item
deriving DecidableEq, Repr

/-- The value inside of shells, of which the first is the outermost. -/
def within : List Shell -> Value -> Value
  | [], value => value
  | .tag tag :: shells, value => .tagged tag (within shells value)
  | .item :: shells, value => .sequence [within shells value]

theorem within_ne_null (shells : List Shell) {value : Value} (hvalue : value ≠ .null) :
    within shells value ≠ .null := by
  cases shells with
  | nil =>
      exact hvalue
  | cons shell shells =>
      cases shell <;>
        simp [within]

theorem plainText_within (shells : List Shell) {value : Value}
    (hvalue : value ≠ .null) : (within shells value).plainText = value.plainText := by
  induction shells with
  | nil =>
      rfl
  | cons shell shells ih =>
      cases shell with
      | tag tag =>
          rw [within, plainText_tagged, ih]
      | item =>
          rw [within, plainText_item (within_ne_null shells hvalue), ih]

/--
The values that a pattern admits by their plain text. It does not matter how deeply a
value is nested, and at no depth is a mapping admitted, or a sequence of no items or
of several.
-/
theorem admits_by_shape (pattern : TextPattern) :
    (forall value : Value,
      pattern.admits value.plainText = true <-> Admitted pattern value) ∧
    (forall (shells : List Shell) (value : Value), value ≠ .null ->
      pattern.admits (within shells value).plainText =
        pattern.admits value.plainText) ∧
    (forall (shells : List Shell) (entries : List (Value × Value)),
      pattern.admits (within shells (.mapping entries)).plainText = false) ∧
    (forall (shells : List Shell) (items : List Value), items.length ≠ 1 ->
      pattern.admits (within shells (.sequence items)).plainText = false) := by
  refine ⟨?_, ?_, ?_, ?_⟩
  · intro value
    exact ⟨admitted_of_admits pattern value, admits_of_admitted pattern⟩
  · intro shells value hvalue
    rw [plainText_within shells hvalue]
  · intro shells entries
    rw [plainText_within shells (by simp)]
    exact not_admits_mapping pattern entries
  · intro shells items hitems
    rw [plainText_within shells (by simp)]
    exact not_admits_sequence pattern hitems

theorem admits_by_shape_nested :
    (Value.string "claude-opus-20250514" ≠ .null ∧
      TextPattern.datedModel.admits
        (within [.item, .tag "!model"] (.string "claude-opus-20250514")).plainText =
          TextPattern.datedModel.admits
            (Value.string "claude-opus-20250514").plainText) ∧
    Admitted .datedModel
      (within [.item, .tag "!model"] (.string "claude-opus-20250514")) ∧
    ([Value.null, Value.null].length ≠ 1 ∧
      TextPattern.datedModel.admits
        (within [.tag "!model"] (.sequence [.null, .null])).plainText = false) := by
  rcases admits_by_shape .datedModel with ⟨hadmitted, hnested, _, hsequence⟩
  have hstring : Value.string "claude-opus-20250514" ≠ .null := by simp
  have hitems : [Value.null, Value.null].length ≠ 1 := by decide
  refine ⟨⟨hstring, hnested _ _ hstring⟩, (hadmitted _).mp ?_, hitems,
    hsequence _ _ hitems⟩
  decide

end Value
end Yaml
end AgentFiles
