import AgentFiles.Proofs.Keyed
import AgentFiles.Proofs.Text.Bytes
import AgentFiles.Stored
import Mathlib.Algebra.Ring.Nat
import Mathlib.Data.List.Induction

/-!
# The tally of types

The tally has an entry for every type that occurs, with the number of files of that type,
in the order of the bytes of the types. As it says no more than how often each type occurs,
it does not depend on the order of the files, and the tallies of two lists add up.
-/

namespace AgentFiles
namespace StoredFile

open Keyed

variable {files others : List StoredFile} {t : String} {n : Nat}

def countOf (t : String) (files : List StoredFile) : Nat :=
  files.countP fun file => file.fileType = t

/-!
## One more file
-/

theorem tally_append_singleton (files : List StoredFile) (file : StoredFile) :
    tally (files ++ [file]) =
      Keyed.insert file.fileType ((find? file.fileType (tally files)).getD 0 + 1)
        (tally files) := by
  rw [tally, List.foldl_append]
  rfl

theorem countOf_append_singleton (t : String) (files : List StoredFile) (file : StoredFile) :
    countOf t (files ++ [file]) = countOf t files + if file.fileType = t then 1 else 0 := by
  simp [countOf, List.countP_append, List.countP_singleton]

theorem sorted_tally (files : List StoredFile) : Sorted (tally files) := by
  induction files using List.reverseRecOn with
  | nil =>
      exact List.Pairwise.nil
  | append_singleton files file ih =>
      rw [tally_append_singleton]
      exact sorted_insert ih

theorem find?_tally (t : String) (files : List StoredFile) :
    find? t (tally files) = if countOf t files = 0 then none else some (countOf t files) := by
  induction files using List.reverseRecOn with
  | nil =>
      rfl
  | append_singleton files file ih =>
      rw [tally_append_singleton, find?_insert, countOf_append_singleton]
      by_cases htype : file.fileType = t
      · rw [htype, ih]
        by_cases hzero : countOf t files = 0 <;>
          simp [hzero]
      · simp [htype, ih]

theorem mem_tally_iff : (t, n) ∈ tally files <-> countOf t files = n ∧ 0 < n := by
  rw [<- find?_eq_some_iff (sorted_tally files).distinct, find?_tally]
  by_cases hzero : countOf t files = 0
  · rw [if_pos hzero, hzero]
    constructor
    · nofun
    · omega
  · rw [if_neg hzero, Option.some_inj]
    omega

theorem mem_keys_tally_iff :
    t ∈ (tally files).map (·.1) <-> exists file, file ∈ files ∧ file.fileType = t := by
  have hoccurs : 0 < countOf t files <-> exists file, file ∈ files ∧ file.fileType = t := by
    simp [countOf, List.countP_pos_iff]
  rw [<- hoccurs, mem_keys_iff, find?_tally]
  by_cases hzero : countOf t files = 0
  · simp [hzero]
  · simp [hzero, Nat.pos_of_ne_zero hzero]

/-!
## The sum of the numbers
-/

/-- A number that takes the place of another changes the sum by their difference. -/
theorem sum_insert (key : String) (value : Nat) {entries : List (String × Nat)}
    (hsorted : Sorted entries) :
    ((Keyed.insert key value entries).map (·.2)).sum + (find? key entries).getD 0 =
      (entries.map (·.2)).sum + value := by
  induction entries with
  | nil =>
      simp [Keyed.insert, find?]
  | cons first rest ih =>
      rcases List.pairwise_cons.mp hsorted with ⟨hfirst, hrest⟩
      have hsum := ih hrest
      rw [Keyed.insert]
      by_cases hless : key < first.1
      · have hnone : find? key (first :: rest) = none :=
          find?_eq_none_of_first (List.forall_mem_cons.mpr
            ⟨hless, fun entry hentry => String.lt_trans hless (hfirst entry hentry)⟩)
        rw [if_pos hless, hnone]
        simp only [List.map_cons, List.sum_cons, Option.getD_none]
        omega
      · by_cases heq : key = first.1
        · rw [if_neg hless, if_pos heq, find?, if_pos heq.symm]
          simp only [List.map_cons, List.sum_cons, Option.getD_some]
          omega
        · rw [if_neg hless, if_neg heq, find?, if_neg (Ne.symm heq)]
          simp only [List.map_cons, List.sum_cons]
          omega

theorem sum_tally (files : List StoredFile) : ((tally files).map (·.2)).sum = files.length := by
  induction files using List.reverseRecOn with
  | nil =>
      rfl
  | append_singleton files file ih =>
      have hsum := sum_insert file.fileType ((find? file.fileType (tally files)).getD 0 + 1)
        (sorted_tally files)
      rw [tally_append_singleton, List.length_append, List.length_singleton]
      omega

/-!
## Several lists
-/

theorem tally_eq_of_count (hcount : forall t, countOf t files = countOf t others) :
    tally files = tally others := by
  apply eq_of_sorted (sorted_tally files) (sorted_tally others)
  intro t
  rw [find?_tally, find?_tally, hcount]

theorem tally_perm (hperm : files.Perm others) : tally files = tally others :=
  tally_eq_of_count fun _ => hperm.countP_eq _

theorem find?_tally_append (t : String) (files others : List StoredFile) :
    find? t (tally (files ++ others)) =
      Option.merge (· + ·) (find? t (tally files)) (find? t (tally others)) := by
  have hcount : countOf t (files ++ others) = countOf t files + countOf t others :=
    List.countP_append
  rw [find?_tally, find?_tally, find?_tally, hcount]
  by_cases hleft : countOf t files = 0 <;> by_cases hright : countOf t others = 0 <;>
    simp [hleft, hright]

/--
The tally has an entry for every type that occurs and for no other, and its number is that of
the files of the type. The types increase by their bytes, and the numbers add up to the number
of files. Files in another order have the same tally, and in the tally of two lists the numbers
of both are added, type by type.
-/
theorem tally_counts_types :
    (forall (files : List StoredFile) (t : String),
      (t ∈ (tally files).map (·.1) <-> exists file, file ∈ files ∧ file.fileType = t) ∧
      forall n, (t, n) ∈ tally files <-> countOf t files = n ∧ 0 < n) ∧
    (forall files : List StoredFile,
      (((tally files).map (·.1)).Pairwise fun key later => Text.bytes key < Text.bytes later) ∧
      ((tally files).map (·.2)).sum = files.length) ∧
    (forall files others : List StoredFile, files.Perm others -> tally files = tally others) ∧
    (forall (files others : List StoredFile) (t : String),
      find? t (tally (files ++ others)) =
        Option.merge (· + ·) (find? t (tally files)) (find? t (tally others))) := by
  refine ⟨fun files t => ⟨mem_keys_tally_iff, fun n => mem_tally_iff⟩, ?_,
    fun files others => tally_perm, fun files others t => find?_tally_append t files others⟩
  intro files
  refine ⟨?_, sum_tally files⟩
  rw [List.pairwise_map]
  exact (sorted_tally files).imp fun hless => (Text.lt_iff_bytes_lt _ _).mp hless

def mixedFiles : List StoredFile :=
  [{ fileType := "\u00e9" }, { fileType := "other" }, { fileType := "" },
    { fileType := "other", isPinned := 1 }]

theorem tally_counts_types_mixed :
    mixedFiles.Perm mixedFiles.reverse ∧
      tally mixedFiles = [("", 1), ("other", 2), ("\u00e9", 1)] ∧
      tally mixedFiles.reverse = [("", 1), ("other", 2), ("\u00e9", 1)] ∧
      find? "other" (tally (mixedFiles ++ mixedFiles.reverse)) = some 4 := by
  have hperm : mixedFiles.Perm mixedFiles.reverse := (List.reverse_perm mixedFiles).symm
  have htally : tally mixedFiles = [("", 1), ("other", 2), ("\u00e9", 1)] := by
    decide +kernel
  rcases tally_counts_types with ⟨_, _, horder, hsum⟩
  have hreverse : tally mixedFiles.reverse = [("", 1), ("other", 2), ("\u00e9", 1)] :=
    (horder _ _ hperm).symm.trans htally
  refine ⟨hperm, htally, hreverse, ?_⟩
  rw [hsum, htally, hreverse]
  rfl

end StoredFile
end AgentFiles
