import FleetSearch.Proofs.Text.Separated
import FleetSearch.Proofs.Web.Query

/-! When two requests are remembered under one key. The key is the filter, a bar and the backends
between commas. Commas cannot be in backends, so the only other reading of a key has its bar within
the filter of one request and the backends of the other. -/

namespace FleetSearch.Web

theorem splitList_tidy {text backend : String} (member : backend ∈ splitList text) :
    backend ≠ "" ∧ ',' ∉ backend.toList := by
  obtain ⟨trimmed, nonempty⟩ := List.mem_filter.mp member
  obtain ⟨piece, present, rfl⟩ := List.mem_map.mp trimmed
  obtain ⟨chars, split, rfl⟩ := List.mem_map.mp present
  refine ⟨by simpa using nonempty, fun comma => ?_⟩
  have inside : ',' ∈ Unicode.trimChars chars := by simpa [Unicode.trim] using comma
  exact Text.notMem_of_mem_splitChars split (Unicode.trimChars_subset chars inside)

namespace Params

/-- Whether names of backends are nonempty and have no commas. -/
def Tidy (params : Params) : Prop :=
  ∀ backend ∈ params.backends, backend ≠ "" ∧ ',' ∉ backend.toList

/-- Parameters that were read name backends that are nonempty and have no commas. -/
theorem tidy_of_read {query : Option String} {params : Params}
    (read : Params.read query = .ok params) : params.Tidy := by
  intro backend member
  rw [(gathers_of_ofPairs read).backends] at member
  obtain ⟨value, _, listed⟩ := List.mem_flatMap.mp member
  exact splitList_tidy listed

/-- The backends of a request between commas, in alphabetical order. -/
def listing (params : Params) : String :=
  Text.join "," (params.backends.mergeSort fun first second => decide (first ≤ second))

theorem memoKey_eq (params : Params) : params.memoKey = params.filter ++ "|" ++ params.listing :=
  rfl

/-- Whether the filter of another request takes in a bar from the backends of this one. -/
def Overlaps (params other : Params) : Prop :=
  ∃ rest : String, other.filter = params.filter ++ "|" ++ rest ∧
    params.listing = rest ++ "|" ++ other.listing

theorem backends_perm_of_listing {first second : Params} (firstTidy : first.Tidy)
    (secondTidy : second.Tidy) (same : first.listing = second.listing) :
    first.backends.Perm second.backends := by
  have sorted {params : Params} (tidy : params.Tidy) : ∀ backend ∈ params.backends.mergeSort
      fun first second => decide (first ≤ second), backend ≠ "" ∧ ',' ∉ backend.toList :=
    fun backend member => tidy backend (List.mem_mergeSort.mp member)
  have equal := Text.join_injective (sorted firstTidy) (sorted secondTidy) same
  have sortedPerm := List.mergeSort_perm first.backends fun first second => decide (first ≤ second)
  rw [equal] at sortedPerm
  exact sortedPerm.symm.trans (List.mergeSort_perm _ _)

/-- Requests with one key have the same filter and the same backends, unless they overlap. -/
theorem same_iff_of_memoKey {first second : Params} (firstTidy : first.Tidy)
    (secondTidy : second.Tidy) (same : first.memoKey = second.memoKey) :
    (first.filter = second.filter ∧ first.backends.Perm second.backends) ↔
      ¬ (first.Overlaps second ∨ second.Overlaps first) := by
  constructor
  · rintro ⟨filter, _⟩ (⟨rest, extended, _⟩ | ⟨rest, extended, _⟩)
    · have longer : Text.Extends "|" second.filter first.filter := ⟨rest, extended⟩
      exact longer.ne rfl filter.symm
    · have longer : Text.Extends "|" first.filter second.filter := ⟨rest, extended⟩
      exact longer.ne rfl filter
  · intro apart
    rcases Text.separator_cases rfl (first.memoKey_eq ▸ second.memoKey_eq ▸ same) with
      together | ⟨rest, extended, split⟩ | ⟨rest, extended, split⟩
    · exact ⟨together.1, backends_perm_of_listing firstTidy secondTidy together.2⟩
    · exact absurd (.inl ⟨rest, extended, split⟩) apart
    · exact absurd (.inr ⟨rest, extended, split⟩) apart

end Params

end FleetSearch.Web
