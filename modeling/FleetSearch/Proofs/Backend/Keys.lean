import FleetSearch.Proofs.Text.Separated

/-! Keys under which results are kept. A key covers what its result depends on if equal keys stand
for equal results, also where they are the keys of two backends. -/

namespace FleetSearch.Backend

open FleetSearch.Text (Extends)

variable {β : Type} {key otherKey : String → String} {result otherResult : String → β}

/-- Whether equal keys of patterns stand for equal results. -/
def KeysCover (key otherKey : String → String) (result otherResult : String → β) : Prop :=
  ∀ pattern text, key pattern = otherKey text → result pattern = otherResult text

theorem KeysCover.symm (covers : KeysCover key otherKey result otherResult) :
    KeysCover otherKey key otherResult result :=
  fun pattern text same => (covers text pattern same.symm).symm

section Front

variable {separator front other : String}

/-- Keys that put a front and a separator before the pattern. If one front extends the other, the
empty pattern has a key in common with a pattern that ends with the separator. -/
theorem KeysCover.eq_of_extends
    (covers : KeysCover (front ++ separator ++ ·) (other ++ separator ++ ·) result otherResult)
    (longer : Extends separator front other) :
    ∃ rest, result "" = otherResult (rest ++ separator) := by
  obtain ⟨rest, rfl⟩ := longer
  refine ⟨rest, covers _ _ ?_⟩
  simp [String.append_assoc]

theorem KeysCover.eq_of_front_eq
    (covers : KeysCover (front ++ separator ++ ·) (other ++ separator ++ ·) result otherResult)
    (same : front = other) (pattern : String) : result pattern = otherResult pattern :=
  covers _ _ (by rw [same])

/-- Fronts of which neither extends the other keep keys apart, so that only equal fronts have to
have equal results. -/
theorem keysCover_of_apart {bar : Char} (single : separator.toList = [bar])
    (apart : ¬ Extends separator front other ∧ ¬ Extends separator other front)
    (same : front = other → ∀ pattern, result pattern = otherResult pattern) :
    KeysCover (front ++ separator ++ ·) (other ++ separator ++ ·) result otherResult := by
  intro pattern text keys
  obtain ⟨fronts, rfl⟩ := Text.eq_of_separated single apart keys
  exact same fronts pattern

end Front

end FleetSearch.Backend
