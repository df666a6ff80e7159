import AgentFiles.Limits
import AgentFiles.Proofs.Text.Numeral
import AgentFiles.Proofs.Text.Trimming

/-!
# Limits from variables

A variable sets its limit exactly when its text writes a number below `2 ^ 64`, and the limit is
then that number. Any other text counts as none. No limit depends on the variable of the other.
-/

namespace AgentFiles
namespace Limits

variable {text : String} {n : Nat}

/-- The text writes the number, after a plus sign or not and with blanks around it or not, and the
number fits 64 bits. -/
def Sets (text : String) (n : Nat) : Prop :=
  exists front sign digits back,
    text.toList = front ++ (sign ++ digits) ++ back ∧ Text.allBlank front = true ∧
      Text.allBlank back = true ∧ (sign = [] ∨ sign = ['+']) ∧ Text.Decimal digits n ∧
      n < Nat.pow 2 64

/-!
## The number of a text
-/

theorem holds_iff {i : Int} : width.Holds i <-> 0 ≤ i ∧ i.toNat < Nat.pow 2 64 := by
  have hpow : Nat.pow 2 64 = 18446744073709551616 := rfl
  simp only [Text.Width.Holds, width, hpow]
  omega

theorem read?_eq_some_iff {s : List Char} :
    width.read? s = some (n : Int) <->
      exists sign digits, s = sign ++ digits ∧ (sign = [] ∨ sign = ['+']) ∧
        Text.Decimal digits n ∧ n < Nat.pow 2 64 := by
  rw [Text.Width.read?_eq_some_iff]
  constructor
  · rintro ⟨sign, digits, m, hs, hdecimal, hsigned, hleast, hholds⟩
    have hless := (holds_iff.mp hholds).right
    rw [Int.toNat_natCast] at hless
    generalize hi : (n : Int) = i at hsigned
    cases hsigned with
    | bare =>
        rw [<- Int.ofNat.inj hi] at hdecimal
        exact ⟨[], digits, hs, .inl rfl, hdecimal, hless⟩
    | plus =>
        rw [<- Int.ofNat.inj hi] at hdecimal
        exact ⟨['+'], digits, hs, .inr rfl, hdecimal, hless⟩
    | minus =>
        exact absurd (hleast rfl) (by decide)
  · rintro ⟨sign, digits, hs, hsign, hdecimal, hless⟩
    have hholds : width.Holds (n : Int) := holds_iff.mpr ⟨Int.natCast_nonneg n, hless⟩
    rcases hsign with rfl | rfl
    · exact ⟨[], digits, n, hs, hdecimal, .bare n, nofun, hholds⟩
    · exact ⟨['+'], digits, n, hs, hdecimal, .plus n, nofun, hholds⟩

/-- No blank is in a numeral, so trimming the text around it leaves the whole of it. -/
theorem trimmed_numeral {sign digits : List Char} (hsign : sign = [] ∨ sign = ['+'])
    (hdecimal : Text.Decimal digits n) : Text.Trimmed (sign ++ digits) := by
  have hsigned : Text.Signed sign n n := by
    rcases hsign with rfl | rfl
    · exact .bare n
    · exact .plus n
  constructor
  · intro c hc
    exact Text.isBlank_of_mem_numeral hsigned hdecimal.all_digits (List.mem_of_head? hc)
  · intro c hc
    exact Text.isBlank_of_mem_numeral hsigned hdecimal.all_digits (List.mem_of_getLast? hc)

theorem ofText?_eq_some_iff : ofText? text = some n <-> Sets text n := by
  have hread :
      ofText? text = some n <-> width.read? (Text.trim text.toList) = some (n : Int) := by
    rw [ofText?, Option.map_eq_some_iff]
    constructor
    · rintro ⟨i, hi, rfl⟩
      rcases Text.Width.read?_eq_some_iff.mp hi with ⟨_, _, _, _, _, _, _, hholds⟩
      rw [hi, Int.toNat_of_nonneg (holds_iff.mp hholds).left]
    · intro hn
      exact ⟨n, hn, Int.toNat_natCast n⟩
  rw [hread, read?_eq_some_iff]
  constructor
  · rintro ⟨sign, digits, htrim, hsign, hdecimal, hless⟩
    rcases Text.trim_eq_iff.mp htrim with ⟨front, back, htext, hfront, _, hback⟩
    exact ⟨front, sign, digits, back, htext, hfront, hback, hsign, hdecimal, hless⟩
  · rintro ⟨front, sign, digits, back, htext, hfront, hback, hsign, hdecimal, hless⟩
    refine ⟨sign, digits, ?_, hsign, hdecimal, hless⟩
    rw [htext]
    exact Text.trim_append hfront (trimmed_numeral hsign hdecimal) hback

/-!
## The limits of all variables
-/

theorem getD_eq_iff {value : Option String} {standard : Nat} :
    (value.bind ofText?).getD standard = n <->
      (exists text, value = some text ∧ Sets text n) ∨
        (n = standard ∧ forall text, value = some text -> forall m, ¬ Sets text m) := by
  simp only [<- ofText?_eq_some_iff]
  cases value with
  | none =>
      simpa using eq_comm
  | some text =>
      cases hlimit : ofText? text with
      | none =>
          simpa [hlimit] using eq_comm
      | some m =>
          simp [hlimit]

/--
A limit is the number that its variable sets. A variable that is missing, or whose text writes no
number or none below `2 ^ 64`, leaves the standard. What the other variable holds, or whether it is
there at all, changes nothing.
-/
theorem limits_set_by_variables :
    (forall (value? : String -> Option String) (n : Nat),
      ((ofVariables value?).name = n <->
        (exists text, value? nameVariable = some text ∧ Sets text n) ∨
          (n = ({} : Limits).name ∧
            forall text, value? nameVariable = some text -> forall m, ¬ Sets text m)) ∧
      ((ofVariables value?).description = n <->
        (exists text, value? descriptionVariable = some text ∧ Sets text n) ∨
          (n = ({} : Limits).description ∧
            forall text, value? descriptionVariable = some text -> forall m, ¬ Sets text m))) ∧
    (forall value? other? : String -> Option String,
      (value? nameVariable = other? nameVariable ->
        (ofVariables value?).name = (ofVariables other?).name) ∧
      (value? descriptionVariable = other? descriptionVariable ->
        (ofVariables value?).description = (ofVariables other?).description)) := by
  constructor
  · intro value? n
    exact ⟨getD_eq_iff, getD_eq_iff⟩
  · intro value? other?
    constructor
    · intro hsame
      simp only [ofVariables, hsame]
    · intro hsame
      simp only [ofVariables, hsame]

/-- The largest limit behind a plus, zeros and blanks, and the number that follows it. -/
def boundVariables (key : String) : Option String :=
  if key = nameVariable then some "\u00a0+00018446744073709551615\u2003"
  else if key = descriptionVariable then some "18446744073709551616"
  else none

theorem limits_set_by_variables_at_bound :
    Sets "\u00a0+00018446744073709551615\u2003" 18446744073709551615 ∧
      (forall m, ¬ Sets "18446744073709551616" m) ∧
      (ofVariables boundVariables).name = 18446744073709551615 ∧
      (ofVariables boundVariables).description = 1024 ∧
      (ofVariables fun _ => boundVariables nameVariable).name = 18446744073709551615 := by
  have hname : Sets "\u00a0+00018446744073709551615\u2003" 18446744073709551615 := by
    apply ofText?_eq_some_iff.mp
    decide +kernel
  have hdescription : forall m, ¬ Sets "18446744073709551616" m := by
    intro m hm
    have hnone : ofText? "18446744073709551616" = none := by
      decide +kernel
    rw [ofText?_eq_some_iff.mpr hm] at hnone
    cases hnone
  have hlimit : (ofVariables boundVariables).name = 18446744073709551615 :=
    (limits_set_by_variables.left _ _).left.mpr (.inl ⟨_, rfl, hname⟩)
  refine ⟨hname, hdescription, hlimit, ?_, ?_⟩
  · apply (limits_set_by_variables.left _ _).right.mpr
    refine .inr ⟨rfl, ?_⟩
    intro text htext
    cases htext
    exact hdescription
  · have hsame := (limits_set_by_variables.right boundVariables
      fun _ => boundVariables nameVariable).left rfl
    exact hsame.symm.trans hlimit

end Limits
end AgentFiles
