import AgentFiles.Text.Blank
import Mathlib.Data.List.DropRight

/-!
# Trimming

What trimming takes away is blank, and what it leaves has no blank at its ends.
Trimming is therefore done after one time.
-/

namespace AgentFiles
namespace Text

theorem allBlank_iff (s : List Char) :
    allBlank s = true <-> forall c, c ∈ s -> isBlank c = true := by
  simp [allBlank]

/-!
## The end of a text
-/

theorem trimEnd_append_blank (s : List Char) {blanks : List Char}
    (hblank : allBlank blanks = true) :
    trimEnd (s ++ blanks) = trimEnd s := by
  have hdrop :
      (blanks.reverse ++ s.reverse).dropWhile isBlank =
        s.reverse.dropWhile isBlank :=
    List.dropWhile_append_of_pos (by
      intro c hc
      exact (allBlank_iff blanks).mp hblank c (List.mem_reverse.mp hc))
  rw [trimEnd, trimEnd, List.reverse_append, hdrop]

theorem trimEnd_append_of_not_blank (s : List Char) {c : Char} (hc : isBlank c = false) :
    trimEnd (s ++ [c]) = s ++ [c] := by
  simp [trimEnd, hc]

theorem exists_trimEnd_append (s : List Char) :
    exists blanks, s = trimEnd s ++ blanks ∧ allBlank blanks = true := by
  exists s.rtakeWhile isBlank
  constructor
  · exact List.rdropWhile_append_rtakeWhile.symm
  · apply (allBlank_iff _).mpr
    intro c hc
    exact List.mem_rtakeWhile_imp hc

theorem trimEnd_trimEnd (s : List Char) :
    trimEnd (trimEnd s) = trimEnd s :=
  List.rdropWhile_idempotent isBlank s

/-!
## Both ends
-/

theorem trimStart_append_blank {blanks : List Char} (s : List Char)
    (hblank : allBlank blanks = true) : trimStart (blanks ++ s) = trimStart s :=
  List.dropWhile_append_of_pos ((allBlank_iff blanks).mp hblank)

theorem exists_trimStart_append (s : List Char) :
    exists blanks, s = blanks ++ trimStart s ∧ allBlank blanks = true := by
  exists s.takeWhile isBlank
  constructor
  · exact List.takeWhile_append_dropWhile.symm
  · apply (allBlank_iff _).mpr
    intro c hc
    exact List.mem_takeWhile_imp hc

theorem trimStart_eq_self_of_head {s : List Char}
    (hhead : forall c, s.head? = some c -> isBlank c = false) :
    trimStart s = s := by
  cases s with
  | nil =>
      rfl
  | cons c rest =>
      have hc := hhead c rfl
      simp [trimStart, hc]

theorem isBlank_of_head?_trimStart {s : List Char} {c : Char}
    (hhead : (trimStart s).head? = some c) : isBlank c = false := by
  have hnot := List.head?_dropWhile_not isBlank s
  rw [trimStart] at hhead
  rw [hhead] at hnot
  simpa using hnot

theorem trimStart_trimEnd_of_head {s : List Char}
    (hhead : forall c, s.head? = some c -> isBlank c = false) :
    trimStart (trimEnd s) = trimEnd s := by
  apply trimStart_eq_self_of_head
  intro c hc
  rcases exists_trimEnd_append s with ⟨blanks, hs, _⟩
  apply hhead c
  rw [hs, List.head?_append, hc]
  rfl

theorem trim_trim (s : List Char) : trim (trim s) = trim s := by
  have hstart : trimStart (trim s) = trim s :=
    trimStart_trimEnd_of_head fun _ hc => isBlank_of_head?_trimStart hc
  calc
    trim (trim s) = trimEnd (trim s) := by rw [trim, hstart]
    _ = trim s := trimEnd_trimEnd (trimStart s)

/-!
## What trimming leaves

A text is trimmed to the part of it that has no blank at its ends and only blanks around it.
-/

def Trimmed (s : List Char) : Prop :=
  (forall c, s.head? = some c -> isBlank c = false) ∧
    forall c, s.getLast? = some c -> isBlank c = false

theorem trimmed_trim (s : List Char) : Trimmed (trim s) := by
  constructor
  · intro c hc
    rw [trim, <- trimStart_trimEnd_of_head fun _ hd => isBlank_of_head?_trimStart hd] at hc
    exact isBlank_of_head?_trimStart hc
  · intro c hc
    have hnot := List.head?_dropWhile_not isBlank (trimStart s).reverse
    rw [trim, trimEnd, List.getLast?_reverse] at hc
    rw [hc] at hnot
    simpa using hnot

theorem trim_append {front s back : List Char} (hfront : allBlank front = true)
    (hs : Trimmed s) (hback : allBlank back = true) : trim (front ++ s ++ back) = s := by
  rw [trim, List.append_assoc, trimStart_append_blank _ hfront]
  rcases List.eq_nil_or_concat' s with rfl | ⟨init, last, rfl⟩
  · have hnil : trimStart back = [] :=
      List.dropWhile_eq_nil_iff.mpr ((allBlank_iff back).mp hback)
    rw [List.nil_append, hnil]
    rfl
  · have hlast : isBlank last = false := hs.right last List.getLast?_concat
    have hhead : trimStart (init ++ [last] ++ back) = init ++ [last] ++ back := by
      apply trimStart_eq_self_of_head
      intro c hc
      apply hs.left c
      rw [List.head?_append] at hc
      cases init <;> exact hc
    rw [hhead, trimEnd_append_blank _ hback, trimEnd_append_of_not_blank init hlast]

theorem exists_trim_append (s : List Char) :
    exists front back, s = front ++ trim s ++ back ∧ allBlank front = true ∧
      allBlank back = true := by
  rcases exists_trimStart_append s with ⟨front, hs, hfront⟩
  rcases exists_trimEnd_append (trimStart s) with ⟨back, htrim, hback⟩
  refine ⟨front, back, ?_, hfront, hback⟩
  rw [List.append_assoc, trim, <- htrim]
  exact hs

theorem trim_eq_iff {s t : List Char} :
    trim s = t <->
      exists front back, s = front ++ t ++ back ∧ allBlank front = true ∧ Trimmed t ∧
        allBlank back = true := by
  constructor
  · rintro rfl
    rcases exists_trim_append s with ⟨front, back, hs, hfront, hback⟩
    exact ⟨front, back, hs, hfront, trimmed_trim s, hback⟩
  · rintro ⟨front, back, rfl, hfront, ht, hback⟩
    exact trim_append hfront ht hback

/-!
## Blank texts

Trimming leaves something exactly when there is something that is not blank.
-/

theorem allBlank_trimStart (s : List Char) :
    allBlank (trimStart s) = allBlank s := by
  induction s with
  | nil =>
      rfl
  | cons c rest ih =>
      by_cases hc : isBlank c = true
      · rw [trimStart, List.dropWhile_cons_of_pos hc]
        simpa [allBlank, trimStart, hc] using ih
      · rw [trimStart, List.dropWhile_cons_of_neg hc]

theorem allBlank_trimEnd (s : List Char) :
    allBlank (trimEnd s) = allBlank s := by
  rcases exists_trimEnd_append s with ⟨blanks, hs, hblank⟩
  have happend :
      allBlank (trimEnd s ++ blanks) = allBlank (trimEnd s) := by
    rw [allBlank, allBlank, List.all_append]
    rw [allBlank] at hblank
    rw [hblank, Bool.and_true]
  rw [<- happend, <- hs]

theorem allBlank_trim (s : List Char) : allBlank (trim s) = allBlank s := by
  rw [trim, allBlank_trimEnd, allBlank_trimStart]

end Text
end AgentFiles
