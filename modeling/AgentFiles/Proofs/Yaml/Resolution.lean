import AgentFiles.Yaml.Reading

/-!
# What scalars stand for

A scalar stands for null, a truth value, a number or its own text. It stands for
null where it is written as a null word or is empty, and its tag allows that.
-/

namespace AgentFiles
namespace Yaml
namespace Scalar

/-- The values that a scalar can stand for, with what it takes to be null. -/
inductive Meaning (text : String) (isNull : Prop) : Value -> Prop where
  | null : isNull -> Meaning text isNull .null
  | bool (b : Bool) : Meaning text isNull (.bool b)
  | number (n : Number) : Meaning text isNull (.number n)
  | string : Meaning text isNull (.string text)

namespace Meaning

variable {text : String} {isNull : Prop} {value : Value}

theorem of_imp {isNull' : Prop} (h : Meaning text isNull value)
    (hnull : isNull -> isNull') : Meaning text isNull' value := by
  cases h with
  | null hwritten =>
      exact .null (hnull hwritten)
  | bool b =>
      exact .bool b
  | number n =>
      exact .number n
  | string =>
      exact .string

theorem text_eq {s : String} (h : Meaning text isNull value)
    (hs : value.text? = some s) : s = text := by
  cases h with
  | string =>
      cases hs
      rfl
  | null | bool | number =>
      cases hs

end Meaning

/-!
## Plain scalars
-/

theorem meaning_of_integer {s : List Char} {text : String} {isNull : Prop}
    {value : Value}
    (h : (integer? s).bind ofInteger? = some (.value value)) :
    Meaning text isNull value := by
  rw [Option.bind_eq_some_iff] at h
  rcases h with ⟨i, _, hi⟩
  unfold ofInteger? at hi
  split at hi
  · cases hi
    exact .number _
  · split at hi
    · cases hi
    · cases hi

theorem isEmpty_toList (text : String) :
    text.toList.isEmpty = (text == "") := by
  cases htext : text == "" with
  | true =>
      rw [beq_iff_eq] at htext
      subst htext
      rfl
  | false =>
      rw [List.isEmpty_eq_false_iff]
      intro h
      rw [String.toList_eq_nil_iff] at h
      simp [h] at htext

theorem meaning_of_ofPlain {text : String} {value : Value}
    (h : ofPlain text = .value value) :
    Meaning text ((text == "" || isNullWord text.toList) = true) value := by
  unfold ofPlain at h
  simp only [isEmpty_toList] at h
  split at h
  · rename_i hnull
    cases h
    exact .null hnull
  · split at h
    · cases h
      exact .bool _
    · split at h
      · rename_i scalar hint
        rw [h] at hint
        exact meaning_of_integer hint
      · split at h
        · cases h
          exact .number _
        · cases h
          exact .string

theorem ofPlain_of_isNull {text : String}
    (h : (text == "" || isNullWord text.toList) = true) :
    ofPlain text = .value .null := by
  unfold ofPlain
  simp only [isEmpty_toList, h, if_true]

/-!
## All scalars
-/

def IsNull (tag : Option Tag) (text : String) (style : Style) : Prop :=
  (tag = some .null ∧ isNullWord text.toList = true) ∨
    ((forall t, tag = some t -> t.isLocal = true) ∧ style = .plain ∧
      (text == "" || isNullWord text.toList) = true)

theorem meaning_of_free {tag : Option Tag} {text : String} {style : Style}
    {value : Value} (htag : forall t, tag = some t -> t.isLocal = true)
    (h : (if style == .plain then ofPlain text else .value (.string text)) =
      .value value) :
    Meaning text (IsNull tag text style) value := by
  split at h
  · rename_i hplain
    rw [beq_iff_eq] at hplain
    exact (meaning_of_ofPlain h).of_imp
      fun hnull => Or.inr ⟨htag, hplain, hnull⟩
  · cases h
    exact .string

theorem meaning_of_resolve {tag : Option Tag} {text : String} {style : Style}
    {value : Value} (h : resolve tag text style = .ok (.value value)) :
    Meaning text (IsNull tag text style) value := by
  cases tag with
  | none =>
      exact meaning_of_free (by simp) (Except.ok.inj h)
  | some t =>
      cases t with
      | bool =>
          cases hword : boolWord? text.toList with
          | none =>
              simp [resolve, hword] at h
          | some b =>
              simp [resolve, hword] at h
              rw [<- h]
              exact .bool b
      | int =>
          cases hint : (integer? text.toList).bind ofInteger? with
          | none =>
              simp [resolve, hint] at h
          | some scalar =>
              simp [resolve, hint] at h
              rw [h] at hint
              exact meaning_of_integer hint
      | float =>
          cases hfloat : decimal? text.toList with
          | none =>
              simp [resolve, hfloat] at h
          | some x =>
              simp [resolve, hfloat] at h
              rw [<- h]
              exact .number _
      | null =>
          cases hnull : isNullWord text.toList with
          | false =>
              simp [resolve, hnull] at h
          | true =>
              simp [resolve, hnull] at h
              rw [<- h]
              exact .null (Or.inl ⟨rfl, hnull⟩)
      | named name | undecodable =>
          exact meaning_of_free (by simp [Tag.isLocal]) (Except.ok.inj h)
      | other =>
          cases Except.ok.inj h
          exact .string

theorem resolve_eq_null_iff (tag : Option Tag) (text : String) (style : Style) :
    resolve tag text style = .ok (.value .null) <->
      IsNull tag text style := by
  constructor
  · intro h
    cases meaning_of_resolve h with
    | null hnull =>
        exact hnull
  · intro h
    rcases h with ⟨rfl, hword⟩ | ⟨htag, rfl, hnull⟩
    · simp [resolve, hword]
    · cases tag with
      | none =>
          simp [resolve, ofPlain_of_isNull hnull]
      | some t =>
          cases t with
          | named name | undecodable =>
              simp [resolve, Tag.isLocal, ofPlain_of_isNull hnull]
          | bool | int | float | null | other =>
              cases htag _ rfl

end Scalar
end Yaml
end AgentFiles
