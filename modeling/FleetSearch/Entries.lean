/-! Association lists kept in the order of their keys, each key once. -/

namespace FleetSearch

/-- Keys with values. Operations keep the keys strictly ascending. -/
abbrev Entries (α : Type) := List (String × α)

namespace Entries

variable {α β : Type}

def get? (key : String) : Entries α → Option α
  | [] => none
  | (other, value) :: rest => if key = other then some value else get? key rest

/-- Puts a value under a key, in place of an earlier one. -/
def insert (key : String) (value : α) : Entries α → Entries α
  | [] => [(key, value)]
  | (other, old) :: rest =>
    if key < other then (key, value) :: (other, old) :: rest
    else if key = other then (key, value) :: rest
    else (other, old) :: insert key value rest

/-- Entries of pairs in any order; of pairs with one key the last counts. -/
def ofPairs (pairs : List (String × α)) : Entries α :=
  pairs.foldl (fun entries (key, value) => insert key value entries) []

def erase (key : String) : Entries α → Entries α
  | [] => []
  | (other, value) :: rest =>
    if key = other then rest else (other, value) :: erase key rest

/-- The keys in order. -/
def keys (entries : Entries α) : List String :=
  entries.map Prod.fst

/-- The invariant: keys ascend strictly. -/
def Sorted (entries : Entries α) : Prop :=
  (keys entries).Pairwise (· < ·)

theorem get?_insert_self (key : String) (value : α) (entries : Entries α) :
    get? key (insert key value entries) = some value := by
  induction entries with
  | nil => simp [insert, get?]
  | cons entry rest ih =>
    obtain ⟨other, old⟩ := entry
    unfold insert
    split
    · simp [get?]
    · split
      · simp [get?]
      · next different => simp [get?, different, ih]

theorem get?_insert_of_ne {key other : String} (different : key ≠ other) (value : α)
    (entries : Entries α) : get? key (insert other value entries) = get? key entries := by
  induction entries with
  | nil => simp [insert, get?, different]
  | cons entry rest ih =>
    obtain ⟨first, old⟩ := entry
    unfold insert
    split
    · simp [get?, different]
    · split
      · next same => subst same; simp [get?, different]
      · simp [get?, ih]

theorem mem_of_get? {key : String} {value : α} {entries : Entries α}
    (found : get? key entries = some value) : (key, value) ∈ entries := by
  induction entries with
  | nil => cases found
  | cons entry rest ih =>
    obtain ⟨other, old⟩ := entry
    unfold get? at found
    split at found
    · cases found
      simp [*]
    · exact List.mem_cons_of_mem _ (ih found)

theorem mem_of_mem_insert {key : String} {value : α} {entries : Entries α} {entry : String × α}
    (member : entry ∈ insert key value entries) :
    entry = (key, value) ∨ entry ∈ entries := by
  induction entries with
  | nil => exact .inl (List.mem_singleton.mp member)
  | cons first rest ih =>
    obtain ⟨other, old⟩ := first
    unfold insert at member
    split at member
    · exact List.mem_cons.mp member
    · split at member
      · rcases List.mem_cons.mp member with same | member
        · exact .inl same
        · exact .inr (List.mem_cons_of_mem _ member)
      · rcases List.mem_cons.mp member with same | member
        · exact .inr (same ▸ List.mem_cons_self ..)
        · exact (ih member).imp_right (List.mem_cons_of_mem _)

theorem erase_subset (key : String) (entries : Entries α) : erase key entries ⊆ entries := by
  induction entries with
  | nil => exact fun _ member => member
  | cons first rest ih =>
    obtain ⟨other, old⟩ := first
    unfold erase
    split
    · exact List.subset_cons_self ..
    · exact List.cons_subset_cons _ ih

end Entries

end FleetSearch
