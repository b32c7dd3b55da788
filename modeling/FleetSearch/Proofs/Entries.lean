import FleetSearch.Entries

/-! Entries stay in the order of their keys, and what is in order already stays as it is. What a
look-up finds in entries that were put together. -/

namespace FleetSearch

namespace Entries

variable {α β : Type} {key : String} {value : α} {entries others : Entries α}

theorem get?_map (change : String → α → β) (key : String) (entries : Entries α) :
    get? key (entries.map fun entry => (entry.1, change entry.1 entry.2)) =
      (get? key entries).map (change key) := by
  induction entries with
  | nil => rfl
  | cons entry rest ih =>
    obtain ⟨other, value⟩ := entry
    by_cases same : key = other
    · subst same
      simp [get?]
    · simp [get?, same, ih]

theorem mem_keys_of_get? {key : String} {value : α} {entries : Entries α}
    (found : get? key entries = some value) : key ∈ keys entries :=
  List.mem_map_of_mem (mem_of_get? found)

theorem mem_keys_iff : key ∈ keys entries ↔ ∃ value, get? key entries = some value := by
  constructor
  · intro member
    induction entries with
    | nil => cases member
    | cons entry rest ih =>
      obtain ⟨first, value⟩ := entry
      by_cases same : key = first
      · exact ⟨value, by simp [get?, same]⟩
      · have later : key ∈ keys rest := (List.mem_cons.mp member).resolve_left same
        simpa [get?, same] using ih later
  · rintro ⟨value, found⟩
    exact mem_keys_of_get? found

theorem get?_of_mem_of_nodup (distinct : (keys entries).Nodup) (member : (key, value) ∈ entries) :
    get? key entries = some value := by
  induction entries with
  | nil => cases member
  | cons entry rest ih =>
    obtain ⟨first, old⟩ := entry
    obtain ⟨absent, distinct⟩ := List.nodup_cons.mp distinct
    rcases List.mem_cons.mp member with same | later
    · cases same
      simp [get?]
    · have different : key ≠ first := by
        rintro rfl
        exact absent (List.mem_map.mpr ⟨_, later, rfl⟩)
      simpa [get?, different] using ih distinct later

theorem Sorted.nodup (sorted : Sorted entries) : (keys entries).Nodup := by
  refine List.Pairwise.imp ?_ sorted
  rintro first second before rfl
  exact String.lt_irrefl _ before

theorem get?_of_mem (sorted : Sorted entries) (member : (key, value) ∈ entries) :
    get? key entries = some value :=
  get?_of_mem_of_nodup sorted.nodup member

theorem Sorted.ext (sorted : Sorted entries) (ordered : Sorted others)
    (same : ∀ key, get? key entries = get? key others) : entries = others := by
  have nodup {entries : Entries α} (sorted : Sorted entries) : entries.Nodup :=
    List.Pairwise.of_map Prod.fst (fun _ _ different equal => different (congrArg _ equal))
      sorted.nodup
  have member (entry : String × α) : entry ∈ entries ↔ entry ∈ others := by
    constructor
    · intro present
      exact mem_of_get? ((same _).symm.trans (get?_of_mem sorted present))
    · intro present
      exact mem_of_get? ((same _).trans (get?_of_mem ordered present))
  have ascending {entries : Entries α} (sorted : Sorted entries) :
      entries.Pairwise fun first second => first.1 < second.1 := List.pairwise_map.mp sorted
  refine List.Perm.eq_of_pairwise ?_ (ascending sorted) (ascending ordered)
    ((List.perm_ext_iff_of_nodup (nodup sorted) (nodup ordered)).mpr member)
  intro first second _ _ before after
  exact absurd after (String.lt_asymm before)

theorem Sorted.insert (sorted : Sorted entries) (key : String) (value : α) :
    Sorted (insert key value entries) := by
  induction entries with
  | nil => simp [Entries.insert, Sorted, keys]
  | cons entry rest ih =>
    obtain ⟨first, old⟩ := entry
    obtain ⟨least, ordered⟩ := List.pairwise_cons.mp sorted
    unfold Entries.insert
    split
    · rename_i before
      refine List.pairwise_cons.mpr ⟨?_, sorted⟩
      intro other member
      rcases List.mem_cons.mp member with rfl | later
      · exact before
      · exact String.lt_trans before (least other later)
    · split
      · rename_i same
        subst same
        exact List.pairwise_cons.mpr ⟨least, ordered⟩
      · rename_i notBefore different
        refine List.pairwise_cons.mpr ⟨?_, ih ordered⟩
        intro other member
        obtain ⟨entry, present, rfl⟩ := List.mem_map.mp member
        rcases mem_of_mem_insert present with rfl | old
        · refine Classical.byContradiction fun notAfter => different ?_
          exact String.le_antisymm (String.not_lt.mp notAfter) (String.not_lt.mp notBefore)
        · exact least _ (List.mem_map_of_mem old)

theorem sorted_ofPairs (pairs : List (String × α)) : Sorted (ofPairs pairs) := by
  have collected (entries : Entries α) (sorted : Sorted entries) :
      Sorted (pairs.foldl (fun entries pair => insert pair.1 pair.2 entries) entries) := by
    induction pairs generalizing entries with
    | nil => exact sorted
    | cons pair rest ih => exact ih _ (sorted.insert pair.1 pair.2)
  exact collected [] List.Pairwise.nil

theorem ofPairs_snoc (pairs : List (String × α)) (key : String) (value : α) :
    ofPairs (pairs ++ [(key, value)]) = insert key value (ofPairs pairs) := by
  simp [ofPairs]

theorem get?_ofPairs (key : String) (pairs : List (String × α)) :
    get? key (ofPairs pairs) = get? key pairs.reverse := by
  rw [← pairs.reverse_reverse]
  induction pairs.reverse with
  | nil => rfl
  | cons pair rest ih =>
    obtain ⟨other, value⟩ := pair
    rw [List.reverse_cons, ofPairs_snoc, List.reverse_append, List.reverse_reverse]
    by_cases same : key = other
    · subst same
      simp [get?, get?_insert_self]
    · simpa [get?, same, get?_insert_of_ne same] using ih

theorem mem_of_mem_ofPairs {pairs : List (String × α)} {entry : String × α}
    (member : entry ∈ ofPairs pairs) : entry ∈ pairs := by
  have found : get? entry.1 (ofPairs pairs) = some entry.2 :=
    get?_of_mem (sorted_ofPairs pairs) member
  rw [get?_ofPairs] at found
  exact List.mem_reverse.mp (mem_of_get? found)

theorem mem_keys_ofPairs {pairs : List (String × α)} :
    key ∈ keys (ofPairs pairs) ↔ key ∈ keys pairs := by
  rw [mem_keys_iff, get?_ofPairs, ← mem_keys_iff, keys, List.map_reverse, List.mem_reverse, keys]

/-- What is put under several keys is under each of them, and nothing under others. -/
theorem get?_ofPairs_map (value : String → α) (key : String) (others : List String) :
    get? key (ofPairs (others.map fun other => (other, value other))) =
      if key ∈ others then some (value key) else none := by
  have listed (others : List String) : get? key (others.map fun other => (other, value other)) =
      if key ∈ others then some (value key) else none := by
    induction others with
    | nil => rfl
    | cons other rest ih =>
      by_cases same : key = other
      · subst same
        simp [get?]
      · simp [get?, same, ih]
  rw [get?_ofPairs, ← List.map_reverse, listed]
  simp only [List.mem_reverse]

theorem get?_ofPairs_of_mem {pairs : List (String × α)} (distinct : (keys pairs).Nodup)
    (member : (key, value) ∈ pairs) : get? key (ofPairs pairs) = some value := by
  have reversed : (keys pairs.reverse).Nodup := by
    rw [keys, List.map_reverse]
    exact List.pairwise_reverse.mpr (distinct.imp Ne.symm)
  rw [get?_ofPairs]
  exact get?_of_mem_of_nodup reversed (List.mem_reverse.mpr member)

theorem ofPairs_of_sorted {pairs : List (String × α)} (sorted : Sorted pairs) :
    ofPairs pairs = pairs := by
  refine (sorted_ofPairs pairs).ext sorted fun key => ?_
  cases found : get? key pairs with
  | some value => exact get?_ofPairs_of_mem sorted.nodup (mem_of_get? found)
  | none =>
    have missing : key ∉ keys pairs := by
      intro member
      obtain ⟨value, there⟩ := mem_keys_iff.mp member
      rw [found] at there
      cases there
    cases collected : get? key (ofPairs pairs) with
    | none => rfl
    | some value => exact absurd (mem_keys_ofPairs.mp (mem_keys_of_get? collected)) missing

end Entries

end FleetSearch
