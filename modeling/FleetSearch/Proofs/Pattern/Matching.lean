import FleetSearch.Pattern.Basic

/-! Expressions that can match nothing: they end in the place where they start, whatever the text
is, and are found in every text. -/

namespace FleetSearch.Pattern.Regex

variable {text : Array Char} {places : List Nat} {place : Nat}

@[simp] theorem mem_distinct : place ∈ distinct places ↔ place ∈ places := by
  -- The places found so far are a part of what the fold gives, so they are general here.
  suffices general : ∀ found : List Nat, place ∈ places.foldl
      (fun found place => if found.contains place then found else found ++ [place]) found ↔
        place ∈ found ∨ place ∈ places by
    exact (general []).trans (by simp)
  induction places with
  | nil => simp
  | cons next rest ih =>
    intro found
    rw [List.foldl_cons, ih]
    split
    · rename_i known
      have member : next ∈ found := List.contains_iff_mem.mp known
      constructor
      · rintro (early | late)
        · exact .inl early
        · exact .inr (List.mem_cons_of_mem _ late)
      · rintro (early | late)
        · exact .inl early
        · rcases List.mem_cons.mp late with rfl | late
          · exact .inl member
          · exact .inr late
    · simp [or_assoc]

theorem mem_reachable {step : Nat → List Nat} {times : Nat} (start : place ∈ places) :
    place ∈ reachable step times places := by
  induction times generalizing places with
  | zero => exact start
  | succ times ih =>
    rw [reachable]
    split
    · exact start
    · exact ih (mem_distinct.mpr (List.mem_append_left _ start))

theorem mem_iterate {step : Nat → List Nat} {times : Nat} (stays : place ∈ step place)
    (start : place ∈ places) : place ∈ iterate step times places := by
  induction times generalizing places with
  | zero => exact start
  | succ times ih => exact ih (mem_distinct.mpr (List.mem_flatMap.mpr ⟨place, start, stays⟩))

/-- Whether an expression can match nothing, whatever the text is. -/
def mayBeEmpty : Regex → Bool
  | .empty => true
  | .one _ | .anchor _ => false
  | .sequence first second => first.mayBeEmpty && second.mayBeEmpty
  | .choice left right => left.mayBeEmpty || right.mayBeEmpty
  | .repetition body least _ => least == 0 || body.mayBeEmpty

theorem mem_ends_of_mayBeEmpty {regex : Regex} (empty : regex.mayBeEmpty = true) :
    place ∈ regex.ends text place := by
  induction regex with
  | empty => exact List.mem_cons_self
  | one set => cases empty
  | anchor condition => cases empty
  | sequence first second ihFirst ihSecond =>
    obtain ⟨one, other⟩ : first.mayBeEmpty = true ∧ second.mayBeEmpty = true := by
      simpa [mayBeEmpty] using empty
    exact mem_distinct.mpr (List.mem_flatMap.mpr ⟨place, ihFirst one, ihSecond other⟩)
  | choice left right ihLeft ihRight =>
    refine mem_distinct.mpr (List.mem_append.mpr ?_)
    rcases (Bool.or_eq_true _ _).mp empty with one | other
    · exact .inl (ihLeft one)
    · exact .inr (ihRight other)
  | repetition body least most ih =>
    have start : place ∈ iterate (body.ends text) least [place] := by
      rcases (Bool.or_eq_true _ _).mp empty with none | empty
      · rw [eq_of_beq none]
        exact List.mem_cons_self
      · exact mem_iterate (ih empty) List.mem_cons_self
    cases most <;> exact mem_reachable start

theorem matchesWithin_of_mayBeEmpty {regex : Regex} (empty : regex.mayBeEmpty = true)
    (name : String) : regex.matchesWithin name = true := by
  refine List.any_eq_true.mpr ⟨0, List.mem_range.mpr (Nat.succ_pos _), ?_⟩
  simpa using List.ne_nil_of_mem (mem_ends_of_mayBeEmpty empty)

end FleetSearch.Pattern.Regex
