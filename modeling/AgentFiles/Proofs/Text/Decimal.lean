import AgentFiles.Text.Digits

/-!
# Decimal texts

The decimal text of a natural number is a run of digits that reads as the number
and has no leading zero. Whatever follows it, the run ends where the text of the
number ends, unless another digit follows.
-/

namespace AgentFiles
namespace Text

theorem isDigit_eq (c : Char) : isDigit c = c.isDigit := by
  simp only [isDigit, Char.isDigit, ge_iff_le, Char.le_def]

theorem isDigit_of_mem_toDigits {n : Nat} {c : Char}
    (hc : c ∈ Nat.toDigits 10 n) : isDigit c = true := by
  rw [isDigit_eq]
  exact Nat.isDigit_of_mem_toDigits (by decide) (by decide) hc

theorem natOf_toDigits (n : Nat) : natOf (Nat.toDigits 10 n) = n := by
  have hread : Nat.ofDigitChars 10 (Nat.toDigits 10 n) 0 = n :=
    Nat.ofDigitChars_ten_toDigits
  rw [Nat.ofDigitChars_eq_foldl] at hread
  exact hread

theorem takeWhile_isDigit_append {digits rest : List Char}
    (hdigits : forall c, c ∈ digits -> isDigit c = true)
    (hrest : forall c, rest.head? = some c -> isDigit c = false) :
    (digits ++ rest).takeWhile isDigit = digits := by
  rw [List.takeWhile_append_of_pos hdigits]
  cases rest with
  | nil =>
      simp
  | cons c rest =>
      have hc := hrest c rfl
      simp [hc]

theorem head?_toDigits_ne_zero {n : Nat} (hn : 10 ≤ n) :
    (Nat.toDigits 10 n).head? ≠ some '0' := by
  induction n using Nat.strongRecOn with
  | ind n ih =>
      rw [Nat.toDigits_of_base_le (by decide) hn]
      by_cases hsmall : n / 10 < 10
      · have hpos : n / 10 ≠ 0 := by omega
        rw [Nat.toDigits_of_lt_base hsmall]
        simp only [List.cons_append, List.head?_cons, ne_eq, Option.some.injEq]
        intro hzero
        have hvalue := congrArg Char.toNat hzero
        rw [Nat.toNat_digitChar_of_lt_ten hsmall] at hvalue
        simp at hvalue
        omega
      · have hhead := ih (n / 10) (by omega) (by omega)
        cases hdigits : Nat.toDigits 10 (n / 10) with
        | nil =>
            exact absurd hdigits Nat.toDigits_ne_nil
        | cons c rest =>
            rw [hdigits] at hhead
            exact hhead

theorem length_toDigits_of_head? {n : Nat}
    (hzero : (Nat.toDigits 10 n).head? = some '0') :
    (Nat.toDigits 10 n).length = 1 := by
  by_cases hn : 10 ≤ n
  · exact absurd hzero (head?_toDigits_ne_zero hn)
  · rw [Nat.toDigits_of_lt_base (by omega)]
    rfl

theorem toList_toString_int (i : Int) :
    (toString i).toList =
      if i < 0 then '-' :: Nat.toDigits 10 i.natAbs
      else Nat.toDigits 10 i.natAbs := by
  cases i with
  | ofNat n =>
      simp [toString, Int.repr, Nat.repr_eq_ofList_toDigits]
  | negSucc n =>
      simp [toString, Int.repr, Nat.repr_eq_ofList_toDigits, Int.negSucc_lt_zero]

end Text
end AgentFiles
