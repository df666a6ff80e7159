import Mathlib.Tactic.SplitIfs

/-!
# The order of bytes

Texts compare by their code points. The bytes that encode two texts compare in the
same way: where two characters differ, the smaller one has the smaller byte at the
first place where their bytes differ.
-/

namespace AgentFiles
namespace Text

def bytes (s : String) : List UInt8 :=
  s.toByteArray.data.toList

theorem bytes_eq (s : String) : bytes s = s.toList.flatMap String.utf8EncodeChar := by
  rw [bytes, <- String.utf8Encode_toList, List.utf8Encode]
  simp

/-!
## Single characters

A byte of an encoded character holds a digit of its code point to the base of 64,
or of a smaller base if it is the first one, above a mark that tells such bytes from
others.
-/

section Characters

variable {m n : Nat}

theorem toNat_ofNat_digit {base mark : Nat} (hbase : 0 < base)
    (hfits : base + mark ≤ 256) (n : Nat) :
    (UInt8.ofNat (n % base + mark)).toNat = n % base + mark := by
  have hdigit : n % base < base := Nat.mod_lt n hbase
  rw [UInt8.toNat_ofNat']
  exact Nat.mod_eq_of_lt (by omega)

/-- The smaller of two numbers has the smaller digit where they differ first. -/
theorem digit_lt_of_lt (h : m < n) :
    m / 64 < n / 64 ∨ (m / 64 = n / 64 ∧ m % 64 < n % 64) := by
  omega

theorem four_digits_lt (h : m < n) (hn : n < 1114112) :
    m / 262144 % 8 + 240 < n / 262144 % 8 + 240 ∨
      m / 262144 % 8 + 240 = n / 262144 % 8 + 240 ∧
        (m / 4096 % 64 + 128 < n / 4096 % 64 + 128 ∨
          m / 4096 % 64 + 128 = n / 4096 % 64 + 128 ∧
            (m / 64 % 64 + 128 < n / 64 % 64 + 128 ∨
              m / 64 % 64 + 128 = n / 64 % 64 + 128 ∧
                m % 64 + 128 < n % 64 + 128)) := by
  have hm : m / 4096 = m / 64 / 64 ∧ m / 262144 = m / 64 / 64 / 64 := by
    omega
  have hn' : n / 4096 = n / 64 / 64 ∧ n / 262144 = n / 64 / 64 / 64 := by
    omega
  rw [hm.left, hm.right, hn'.left, hn'.right]
  rcases digit_lt_of_lt h with h1 | h1
  · rcases digit_lt_of_lt h1 with h2 | h2
    · rcases digit_lt_of_lt h2 with h3 | h3 <;>
        omega
    · omega
  · omega

theorem encoded_lt_of_lt {c d : Char} (h : c < d) (rest rest' : List UInt8) :
    String.utf8EncodeChar c ++ rest < String.utf8EncodeChar d ++ rest' := by
  have hless : c.val.toNat < d.val.toNat := h
  have hbound : d.val.toNat < 1114112 := by
    rcases d.valid with hlow | hhigh
    · exact Nat.lt_trans hlow (by decide)
    · exact hhigh.right
  have first2 := toNat_ofNat_digit (show 0 < 32 by decide) (show 32 + 192 ≤ 256 by decide)
  have first3 := toNat_ofNat_digit (show 0 < 16 by decide) (show 16 + 224 ≤ 256 by decide)
  have first4 := toNat_ofNat_digit (show 0 < 8 by decide) (show 8 + 240 ≤ 256 by decide)
  have later := toNat_ofNat_digit (show 0 < 64 by decide) (show 64 + 128 ≤ 256 by decide)
  unfold String.utf8EncodeChar
  generalize c.val.toNat = m at hless
  generalize d.val.toNat = n at hless hbound
  have hfour := four_digits_lt hless hbound
  dsimp only
  -- One case for each pair of lengths.
  split_ifs
  all_goals
    simp only [List.cons_append, List.nil_append, List.cons_lt_cons_iff,
      UInt8.lt_iff_toNat_lt, <- UInt8.toNat_inj, first2, first3, first4, later,
      UInt8.toNat_ofNat']
    omega

end Characters

/-!
## Texts
-/

theorem flatMap_lt_of_lt {cs ds : List Char} (h : cs < ds) :
    cs.flatMap String.utf8EncodeChar < ds.flatMap String.utf8EncodeChar := by
  induction h with
  | nil =>
      rename_i d rest
      rw [List.flatMap_nil, List.flatMap_cons]
      cases hbytes : String.utf8EncodeChar d with
      | nil =>
          exact absurd hbytes String.utf8EncodeChar_ne_nil
      | cons byte bytes =>
          exact List.nil_lt_cons _ _
  | rel hless =>
      rw [List.flatMap_cons, List.flatMap_cons]
      exact encoded_lt_of_lt hless _ _
  | cons hrest ih =>
      rw [List.flatMap_cons, List.flatMap_cons]
      exact List.append_left_lt ih

theorem lt_iff_bytes_lt (s t : String) : s < t <-> bytes s < bytes t := by
  have hforward : forall {s t : String}, s < t -> bytes s < bytes t := by
    intro s t h
    rw [bytes_eq, bytes_eq]
    exact flatMap_lt_of_lt (String.lt_iff.mp h)
  constructor
  · exact hforward
  · intro h
    by_cases heq : s = t
    · rw [heq] at h
      exact absurd h (List.lt_irrefl _)
    · apply Std.lt_of_le_of_ne _ heq
      rw [<- String.not_lt]
      intro hgreater
      exact List.lt_asymm h (hforward hgreater)

end Text
end AgentFiles
