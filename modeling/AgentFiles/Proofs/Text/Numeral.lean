import AgentFiles.Proofs.Text.Decimal
import AgentFiles.Text.Blank
import AgentFiles.Text.Numeral
import Mathlib.Data.List.Induction
import Mathlib.Data.Nat.Digits.Defs

/-!
# Reading numerals of a fixed width

Every digit takes a number further away from zero or leaves it at zero. So if a width holds the
number of a whole numeral, it holds every number on the way, and reading digit by digit gives the
number that the numeral writes exactly when that number fits.
-/

namespace AgentFiles
namespace Text

/-!
## Decimal numbers
-/

/-- A run of digits writes a number in the decimal system, with zeros in front or not. -/
structure Decimal (digits : List Char) (n : Nat) : Prop where
  ne_nil : digits ≠ []
  all_digits : forall c, c ∈ digits -> isDigit c = true
  value : Nat.ofDigits 10 (digits.reverse.map digitValue) = n

/-- A sign in front of a number. Without one, and behind a plus, the number stays as it is. -/
inductive Signed : List Char -> Nat -> Int -> Prop where
  | bare (n : Nat) : Signed [] n n
  | plus (n : Nat) : Signed ['+'] n n
  | minus (n : Nat) : Signed ['-'] n (-n)

theorem natOf_append_singleton (digits : List Char) (c : Char) :
    natOf (digits ++ [c]) = 10 * natOf digits + digitValue c := by
  simp [natOf]

theorem natOf_eq_ofDigits (digits : List Char) :
    natOf digits = Nat.ofDigits 10 (digits.reverse.map digitValue) := by
  induction digits using List.reverseRecOn with
  | nil =>
      rfl
  | append_singleton digits c ih =>
      rw [natOf_append_singleton, ih, List.reverse_append]
      simp only [List.reverse_singleton, List.singleton_append, List.map_cons,
        Nat.ofDigits_cons]
      omega

theorem decimal_iff {digits : List Char} {n : Nat} :
    Decimal digits n <->
      digits ≠ [] ∧ (forall c, c ∈ digits -> isDigit c = true) ∧ natOf digits = n := by
  rw [natOf_eq_ofDigits]
  constructor
  · intro h
    exact ⟨h.ne_nil, h.all_digits, h.value⟩
  · rintro ⟨hne, hdigits, hvalue⟩
    exact ⟨hne, hdigits, hvalue⟩

theorem decimal_toDigits (n : Nat) : Decimal (Nat.toDigits 10 n) n :=
  decimal_iff.mpr
    ⟨Nat.toDigits_ne_nil, fun _ hc => isDigit_of_mem_toDigits hc, natOf_toDigits n⟩

/-!
## The characters of a numeral
-/

theorem isBlank_of_isDigit {c : Char} (hc : isDigit c = true) : isBlank c = false := by
  have hbounds : 48 ≤ c.toNat ∧ c.toNat ≤ 57 := by
    simpa [isDigit, Char.le_def, UInt32.le_iff_toNat_le] using hc
  simp [isBlank]
  omega

theorem isSign_of_isDigit {c : Char} (hc : isDigit c = true) : isSign c = false := by
  rw [isSign, Bool.or_eq_false_iff, beq_eq_false_iff_ne, beq_eq_false_iff_ne]
  constructor
  · rintro rfl
    exact absurd hc (by decide)
  · rintro rfl
    exact absurd hc (by decide)

theorem isBlank_of_mem_numeral {sign digits : List Char} {n : Nat} {i : Int} {c : Char}
    (hsigned : Signed sign n i) (hdigits : forall d, d ∈ digits -> isDigit d = true)
    (hc : c ∈ sign ++ digits) : isBlank c = false := by
  rcases List.mem_append.mp hc with hsign | hdigit
  · cases hsigned with
    | bare =>
        cases hsign
    | plus | minus =>
        cases List.mem_singleton.mp hsign
        rfl
  · exact isBlank_of_isDigit (hdigits c hdigit)

namespace Width

variable {width : Width} {negative : Bool} {i j : Int} {m n : Nat}

/-!
## What fits
-/

def Holds (width : Width) (i : Int) : Prop :=
  width.least ≤ i ∧ i ≤ width.most

def directed (negative : Bool) (n : Nat) : Int :=
  if negative then -n else n

theorem fit?_eq_some_iff : width.fit? i = some j <-> i = j ∧ width.Holds j := by
  rw [fit?, Option.ite_none_right_eq_some, Option.some_inj]
  constructor
  · rintro ⟨hholds, rfl⟩
    exact ⟨rfl, hholds⟩
  · rintro ⟨rfl, hholds⟩
    exact ⟨hholds, rfl⟩

/-- What is nearer to zero on the same side of it fits too. -/
theorem Holds.of_le (hholds : width.Holds (directed negative n)) (hle : m ≤ n) :
    width.Holds (directed negative m) := by
  have hleast := width.least_le_zero
  have hmost := width.zero_le_most
  cases negative with
  | false =>
      simp only [Holds, directed, Bool.false_eq_true, if_false] at hholds ⊢
      omega
  | true =>
      simp only [Holds, directed, if_true] at hholds ⊢
      omega

theorem holds_zero (width : Width) : width.Holds 0 :=
  ⟨width.least_le_zero, width.zero_le_most⟩

/-!
## Digit by digit
-/

/-- One more digit: the step succeeds exactly when its result fits. -/
theorem push?_eq_some_iff {c : Char} :
    width.push? negative (directed negative n) c = some i <->
      isDigit c = true ∧ directed negative (10 * n + digitValue c) = i ∧ width.Holds i := by
  have htenfold : 10 * directed negative n = directed negative (10 * n) := by
    cases negative <;> simp [directed]
  have hsum :
      (if negative then directed negative (10 * n) - digitValue c
        else directed negative (10 * n) + digitValue c) =
        directed negative (10 * n + digitValue c) := by
    cases negative with
    | false =>
        simp [directed]
    | true =>
        simp only [directed, if_true]
        omega
  rw [push?, Option.ite_none_right_eq_some, htenfold, Option.bind_eq_some_iff]
  apply and_congr_right
  intro hdigit
  constructor
  · rintro ⟨tenfold, htens, hfit⟩
    rw [fit?_eq_some_iff] at htens
    rw [<- htens.left, hsum] at hfit
    exact fit?_eq_some_iff.mp hfit
  · rintro ⟨rfl, hholds⟩
    refine ⟨directed negative (10 * n), ?_, ?_⟩
    · exact fit?_eq_some_iff.mpr ⟨rfl, hholds.of_le (by omega)⟩
    · rw [hsum]
      exact fit?_eq_some_iff.mpr ⟨rfl, hholds⟩

/-- A run of digits is read exactly when its number fits, however many digits it has. -/
theorem foldlM_push?_eq_some_iff {digits : List Char} :
    digits.foldlM (width.push? negative) 0 = some i <->
      (forall c, c ∈ digits -> isDigit c = true) ∧
        directed negative (natOf digits) = i ∧ width.Holds i := by
  induction digits using List.reverseRecOn generalizing i with
  | nil =>
      have hzero : directed negative (natOf []) = 0 := by
        cases negative <;> rfl
      rw [hzero, List.foldlM_nil]
      constructor
      · intro h
        cases h
        exact ⟨nofun, rfl, width.holds_zero⟩
      · rintro ⟨_, rfl, _⟩
        rfl
  | append_singleton digits c ih =>
      rw [List.foldlM_append]
      change (digits.foldlM (width.push? negative) 0).bind
        (fun before => [c].foldlM (width.push? negative) before) = some i <-> _
      simp only [List.foldlM_cons, List.foldlM_nil, bind_pure, Option.bind_eq_some_iff,
        List.forall_mem_append, List.forall_mem_singleton, natOf_append_singleton]
      constructor
      · rintro ⟨before, hbefore, hpush⟩
        rcases ih.mp hbefore with ⟨hdigits, rfl, _⟩
        rcases push?_eq_some_iff.mp hpush with ⟨hc, hvalue, hholds⟩
        exact ⟨⟨hdigits, hc⟩, hvalue, hholds⟩
      · rintro ⟨⟨hdigits, hc⟩, rfl, hholds⟩
        refine ⟨directed negative (natOf digits), ?_, ?_⟩
        · exact ih.mpr ⟨hdigits, rfl, hholds.of_le (by omega)⟩
        · exact push?_eq_some_iff.mpr ⟨hc, rfl, hholds⟩

/-!
## The sign
-/

theorem splitSign_of_digits {digits : List Char}
    (hdigits : forall c, c ∈ digits -> isDigit c = true) :
    width.splitSign digits = (false, digits) := by
  unfold splitSign
  split
  · exact absurd (hdigits '+' List.mem_cons_self) (by decide)
  · exact absurd (hdigits '-' List.mem_cons_self) (by decide)
  · rfl

theorem exists_sign (width : Width) (s : List Char) :
    exists sign, s = sign ++ (width.splitSign s).2 ∧
      (sign = ['-'] -> width.least < 0) ∧
      forall n, Signed sign n (directed (width.splitSign s).1 n) := by
  unfold splitSign
  split
  · exact ⟨['+'], rfl, nofun, .plus⟩
  · by_cases hleast : width.least < 0
    · rw [if_pos hleast]
      exact ⟨['-'], rfl, fun _ => hleast, .minus⟩
    · rw [if_neg hleast]
      exact ⟨[], rfl, nofun, .bare⟩
  · exact ⟨[], rfl, nofun, .bare⟩

theorem splitSign_signed {sign digits : List Char} (hsigned : Signed sign n i)
    (hleast : sign = ['-'] -> width.least < 0)
    (hdigits : forall c, c ∈ digits -> isDigit c = true) :
    exists negative, width.splitSign (sign ++ digits) = (negative, digits) ∧
      directed negative n = i := by
  cases hsigned with
  | bare =>
      exact ⟨false, splitSign_of_digits hdigits, rfl⟩
  | plus =>
      exact ⟨false, rfl, rfl⟩
  | minus =>
      refine ⟨true, ?_, rfl⟩
      simp [splitSign, hleast rfl]

/--
A text is read as a number exactly when it is a run of digits that writes the number, behind a sign
or not, and the number fits. A hyphen is a sign only where there are numbers below zero.
-/
theorem read?_eq_some_iff {s : List Char} :
    width.read? s = some i <->
      exists sign digits n, s = sign ++ digits ∧ Decimal digits n ∧ Signed sign n i ∧
        (sign = ['-'] -> width.least < 0) ∧ width.Holds i := by
  constructor
  · intro hread
    rcases width.exists_sign s with ⟨sign, hs, hleast, hsigned⟩
    simp only [read?, Option.ite_none_left_eq_some, List.isEmpty_iff] at hread
    rcases foldlM_push?_eq_some_iff.mp hread.right with ⟨hdigits, hvalue, hholds⟩
    refine ⟨sign, (width.splitSign s).2, natOf (width.splitSign s).2, hs,
      decimal_iff.mpr ⟨hread.left, hdigits, rfl⟩, ?_, hleast, hholds⟩
    rw [<- hvalue]
    exact hsigned _
  · rintro ⟨sign, digits, n, rfl, hdecimal, hsigned, hleast, hholds⟩
    rcases decimal_iff.mp hdecimal with ⟨hne, hdigits, hvalue⟩
    rcases splitSign_signed hsigned hleast hdigits with ⟨negative, hsplit, hdirected⟩
    simp only [read?, hsplit, List.isEmpty_iff, if_neg hne]
    rw [foldlM_push?_eq_some_iff, hvalue]
    exact ⟨hdigits, hdirected, hholds⟩

end Width
end Text
end AgentFiles
