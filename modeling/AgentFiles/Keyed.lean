/-!
# Entries in the order of their keys

Entries are kept in increasing order of their keys, which compare by code points and so also by the
bytes of their encoding. A key occurs once: a later entry takes the place of an earlier one.
-/

namespace AgentFiles
namespace Keyed

variable {β : Type}

def insert (key : String) (value : β) : List (String × β) -> List (String × β)
  | [] => [(key, value)]
  | (k, v) :: rest =>
    if key < k then (key, value) :: (k, v) :: rest
    else if key = k then (key, value) :: rest
    else (k, v) :: insert key value rest

def find? (key : String) : List (String × β) -> Option β
  | [] => none
  | (k, v) :: rest => if k = key then some v else find? key rest

/-- The entries of a list, the last one for each key. -/
def ofList (entries : List (String × β)) : List (String × β) :=
  entries.foldl (fun kept entry => insert entry.1 entry.2 kept) []

theorem find?_insert (key other : String) (value : β) (entries : List (String × β)) :
    find? other (insert key value entries) =
      if key = other then some value else find? other entries := by
  induction entries with
  | nil =>
      simp [insert, find?]
  | cons entry rest ih =>
      rcases entry with ⟨k, v⟩
      by_cases hlt : key < k
      · simp [insert, hlt, find?]
      · by_cases heq : key = k
        · subst heq
          by_cases ho : key = other <;> simp [insert, find?, ho]
        · by_cases hk : k = other
          · subst hk
            simp [insert, hlt, heq, find?]
          · simp [insert, hlt, heq, find?, hk, ih]

end Keyed
end AgentFiles
