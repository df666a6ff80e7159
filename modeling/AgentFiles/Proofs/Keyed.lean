import AgentFiles.Keyed

/-!
# Sorted entries

Entries that were inserted one by one are in increasing order of their keys.
Inserting sorted entries again changes nothing, and every entry that is kept is
one of those that were inserted. A key finds the last entry that was inserted
under it. Sorted entries are determined by what each key finds among them.
-/

namespace AgentFiles
namespace Keyed

variable {β : Type} {key : String} {value : β}
variable {entry : String × β} {entries : List (String × β)}

/-- Keys increase from entry to entry, so that none occurs twice. -/
def Sorted (entries : List (String × β)) : Prop :=
  entries.Pairwise fun entry later => entry.1 < later.1

theorem mem_insert (hmem : entry ∈ insert key value entries) :
    entry = (key, value) ∨ entry ∈ entries := by
  induction entries with
  | nil =>
      exact .inl (List.mem_singleton.mp hmem)
  | cons first rest ih =>
      rw [insert] at hmem
      split at hmem
      · exact List.mem_cons.mp hmem
      · split at hmem
        · rcases List.mem_cons.mp hmem with hnew | hrest
          · exact .inl hnew
          · exact .inr (List.mem_cons_of_mem _ hrest)
        · rcases List.mem_cons.mp hmem with hfirst | hrest
          · exact .inr (hfirst ▸ List.mem_cons_self)
          · exact (ih hrest).imp_right (List.mem_cons_of_mem _)

theorem sorted_insert (hsorted : Sorted entries) :
    Sorted (insert key value entries) := by
  induction entries with
  | nil =>
      exact List.pairwise_singleton _ _
  | cons first rest ih =>
      rcases List.pairwise_cons.mp hsorted with ⟨hfirst, hrest⟩
      rw [insert]
      split
      · rename_i hless
        apply List.pairwise_cons.mpr
        refine ⟨?_, hsorted⟩
        intro later hlater
        rcases List.mem_cons.mp hlater with heq | hmem
        · rw [heq]
          exact hless
        · exact String.lt_trans hless (hfirst later hmem)
      · rename_i hless
        split
        · rename_i heq
          apply List.pairwise_cons.mpr
          exact ⟨by simpa [heq] using hfirst, hrest⟩
        · rename_i hne
          have hgreater : first.1 < key :=
            Std.lt_of_le_of_ne (String.not_lt.mp hless) (Ne.symm hne)
          apply List.pairwise_cons.mpr
          refine ⟨?_, ih hrest⟩
          intro later hlater
          rcases mem_insert hlater with heq | hmem
          · rw [heq]
            exact hgreater
          · exact hfirst later hmem

theorem insert_of_last (hlast : forall entry, entry ∈ entries -> entry.1 < key) :
    insert key value entries = entries ++ [(key, value)] := by
  induction entries with
  | nil =>
      rfl
  | cons first rest ih =>
      have hfirst : first.1 < key := hlast first List.mem_cons_self
      have hne : key ≠ first.1 := by
        intro heq
        exact String.lt_irrefl key (heq ▸ hfirst)
      rw [insert, if_neg (String.lt_asymm hfirst), if_neg hne,
        ih fun entry hentry => hlast entry (List.mem_cons_of_mem _ hentry),
        List.cons_append]

/-!
## Lists of entries
-/

theorem sorted_ofList (entries : List (String × β)) : Sorted (ofList entries) :=
  List.foldlRecOn entries _ List.Pairwise.nil
    fun _ hkept _ _ => sorted_insert hkept

theorem mem_ofList (hmem : entry ∈ ofList entries) : entry ∈ entries := by
  have hkept : forall entry, entry ∈ ofList entries -> entry ∈ entries := by
    apply List.foldlRecOn (motive := fun kept =>
      forall entry, entry ∈ kept -> entry ∈ entries) entries
    · intro entry hnil
      cases hnil
    · intro kept hkept next hnext entry hentry
      rcases mem_insert hentry with heq | hold
      · rw [heq]
        exact hnext
      · exact hkept entry hold
  exact hkept entry hmem

theorem foldl_insert_of_sorted {kept : List (String × β)}
    (hsorted : Sorted (kept ++ entries)) :
    entries.foldl (fun kept entry => insert entry.1 entry.2 kept) kept =
      kept ++ entries := by
  induction entries generalizing kept with
  | nil =>
      simp
  | cons first rest ih =>
      have hlast : forall entry, entry ∈ kept -> entry.1 < first.1 :=
        fun entry hentry => (List.pairwise_append.mp hsorted).2.2 entry hentry
          first List.mem_cons_self
      have hmoved : Sorted ((kept ++ [first]) ++ rest) := by
        simpa using hsorted
      rw [List.foldl_cons, insert_of_last hlast, ih hmoved]
      simp

theorem ofList_of_sorted (hsorted : Sorted entries) :
    ofList entries = entries := by
  have hnone : Sorted ([] ++ entries) := hsorted
  exact foldl_insert_of_sorted hnone

/-!
## Looking up
-/

section Lookup

variable {others : List (String × β)}

theorem find?_append (key : String) (entries others : List (String × β)) :
    find? key (entries ++ others) = (find? key entries).or (find? key others) := by
  induction entries with
  | nil =>
      rfl
  | cons entry rest ih =>
      rcases entry with ⟨k, v⟩
      by_cases hk : k = key
      · simp [find?, hk]
      · simp [find?, hk, ih]

theorem mem_of_find? (hfind : find? key entries = some value) :
    (key, value) ∈ entries := by
  induction entries with
  | nil =>
      cases hfind
  | cons first rest ih =>
      rw [find?] at hfind
      split at hfind
      · rename_i hkey
        injection hfind with hvalue
        rw [<- hkey, <- hvalue]
        exact List.mem_cons_self
      · exact List.mem_cons_of_mem _ (ih hfind)

theorem find?_eq_none_iff :
    find? key entries = none <-> key ∉ entries.map (·.1) := by
  induction entries with
  | nil =>
      simp [find?]
  | cons first rest ih =>
      by_cases hkey : first.1 = key
      · simp [find?, hkey]
      · simp [find?, hkey, ih, Ne.symm hkey]

theorem find?_eq_none_of_first (hfirst : forall entry, entry ∈ entries -> key < entry.1) :
    find? key entries = none := by
  apply find?_eq_none_iff.mpr
  intro hmem
  rcases List.mem_map.mp hmem with ⟨entry, hentry, hkey⟩
  exact String.lt_irrefl _ (hkey ▸ hfirst entry hentry)

theorem mem_keys_iff :
    key ∈ entries.map (·.1) <-> exists value, find? key entries = some value := by
  rw [<- Option.ne_none_iff_exists', Ne, find?_eq_none_iff, Classical.not_not]

theorem find?_eq_some_iff (hdistinct : (entries.map (·.1)).Nodup) :
    find? key entries = some value <-> (key, value) ∈ entries := by
  constructor
  · exact mem_of_find?
  · intro hmem
    induction entries with
    | nil =>
        cases hmem
    | cons first rest ih =>
        rcases List.nodup_cons.mp hdistinct with ⟨hfirst, hrest⟩
        rcases List.mem_cons.mp hmem with heq | hmem
        · simp [<- heq, find?]
        · have hkey : first.1 ≠ key := by
            intro heq
            exact hfirst (List.mem_map.mpr ⟨(key, value), hmem, heq.symm⟩)
          rw [find?, if_neg hkey]
          exact ih hrest hmem

theorem find?_reverse (hdistinct : (entries.map (·.1)).Nodup) :
    find? key entries.reverse = find? key entries := by
  have hreverse : (entries.reverse.map (·.1)).Nodup := by
    rw [List.map_reverse]
    exact List.pairwise_reverse.mpr (hdistinct.imp Ne.symm)
  apply Option.ext
  intro value
  rw [find?_eq_some_iff hreverse, find?_eq_some_iff hdistinct,
    List.mem_reverse]

theorem find?_ofList (key : String) (entries : List (String × β)) :
    find? key (ofList entries) = find? key entries.reverse := by
  have hkept : forall kept,
      find? key (entries.foldl (fun kept entry => insert entry.1 entry.2 kept) kept) =
        (find? key entries.reverse).or (find? key kept) := by
    induction entries with
    | nil =>
        intro kept
        rfl
    | cons first rest ih =>
        intro kept
        rw [List.foldl_cons, ih, find?_insert, List.reverse_cons, find?_append,
          Option.or_assoc]
        by_cases hkey : first.1 = key <;>
          simp [find?, hkey]
  rw [ofList, hkept]
  simp [find?]

theorem find?_map {γ : Type} (f : β -> γ) :
    find? key (entries.map fun entry => (entry.1, f entry.2)) =
      (find? key entries).map f := by
  induction entries with
  | nil =>
      rfl
  | cons first rest ih =>
      by_cases hkey : first.1 = key <;>
        simp [find?, hkey, ih]

theorem find?_filter (keep : String -> Bool) :
    find? key (entries.filter fun entry => keep entry.1) =
      if keep key then find? key entries else none := by
  induction entries with
  | nil =>
      simp [find?]
  | cons first rest ih =>
      by_cases hkey : first.1 = key
      · subst hkey
        cases hkeep : keep first.1 <;>
          simp [find?, hkeep, ih]
      · cases hkeep : keep first.1 <;>
          simp [find?, hkeep, hkey, ih]

theorem Sorted.distinct (hsorted : Sorted entries) :
    (entries.map (·.1)).Nodup := by
  rw [List.Nodup, List.pairwise_map]
  apply hsorted.imp
  intro entry later hless heq
  rw [heq] at hless
  exact String.lt_irrefl _ hless

theorem eq_of_sorted (hsorted : Sorted entries) (hsorted' : Sorted others)
    (hfind : forall key, find? key entries = find? key others) :
    entries = others := by
  apply List.Perm.eq_of_pairwise _ hsorted hsorted'
  · have hnodup : forall {entries : List (String × β)}, Sorted entries ->
        entries.Nodup :=
      fun h => List.Pairwise.of_map (·.1) (fun _ _ hne heq => hne (heq ▸ rfl)) h.distinct
    apply (List.perm_ext_iff_of_nodup (hnodup hsorted) (hnodup hsorted')).mpr
    intro entry
    rw [<- find?_eq_some_iff hsorted.distinct, <- find?_eq_some_iff hsorted'.distinct,
      hfind]
  · intro entry later _ _ hless hgreater
    exact absurd hgreater (String.lt_asymm hless)

theorem ofList_filter (keep : String -> Bool) :
    ofList (entries.filter fun entry => keep entry.1) =
      (ofList entries).filter fun entry => keep entry.1 := by
  apply eq_of_sorted (sorted_ofList _) ((sorted_ofList entries).filter _)
  intro key
  rw [find?_ofList, <- List.filter_reverse, find?_filter, find?_filter, find?_ofList]

end Lookup

end Keyed
end AgentFiles
