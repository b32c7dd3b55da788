import FleetSearch.Proofs.Pattern.Matching
import FleetSearch.Proofs.Pattern.Trailing

/-! Parts in a row: where they end in a text, and what any number of characters in front of them or
behind them changes about that. -/

namespace FleetSearch.Pattern

variable {text : Array Char} {place stop : Nat}

namespace Regex

theorem mem_sequence {first second : Regex} :
    stop ∈ (sequence first second).ends text place ↔
      ∃ middle ∈ first.ends text place, stop ∈ second.ends text middle := by
  rw [ends, mem_distinct, List.mem_flatMap]

theorem mem_choice {left right : Regex} :
    stop ∈ (choice left right).ends text place ↔
      stop ∈ left.ends text place ∨ stop ∈ right.ends text place := by
  rw [ends, mem_distinct, List.mem_append]

theorem forall_iterate {step : Nat → List Nat} {inside : Nat → Prop}
    (stays : ∀ place, inside place → ∀ stop ∈ step place, inside stop) {times : Nat}
    {places : List Nat} (start : ∀ place ∈ places, inside place) :
    ∀ stop ∈ iterate step times places, inside stop := by
  induction times generalizing places with
  | zero => exact start
  | succ times ih =>
    refine ih fun stop member => ?_
    obtain ⟨place, known, next⟩ := List.mem_flatMap.mp (mem_distinct.mp member)
    exact stays place (start place known) stop next

theorem forall_reachable {step : Nat → List Nat} {inside : Nat → Prop}
    (stays : ∀ place, inside place → ∀ stop ∈ step place, inside stop) {times : Nat}
    {places : List Nat} (start : ∀ place ∈ places, inside place) :
    ∀ stop ∈ reachable step times places, inside stop := by
  induction times generalizing places with
  | zero => exact start
  | succ times ih =>
    rw [reachable]
    split
    · exact start
    · refine ih fun stop member => ?_
      rcases List.mem_append.mp (mem_distinct.mp member) with known | next
      · exact start stop known
      · obtain ⟨place, known, next⟩ := List.mem_flatMap.mp next
        exact stays place (start place known) stop next

theorem ends_within {regex : Regex} :
    ∀ {place : Nat}, place ≤ text.size →
      ∀ stop ∈ regex.ends text place, place ≤ stop ∧ stop ≤ text.size := by
  induction regex with
  | empty =>
    intro place inside stop member
    cases List.mem_singleton.mp member
    exact ⟨Nat.le_refl _, inside⟩
  | one set =>
    intro place inside stop member
    rw [ends] at member
    split at member
    · rename_i c found
      split at member
      · cases List.mem_singleton.mp member
        exact ⟨Nat.le_succ _, (Array.getElem?_eq_some_iff.mp found).1⟩
      · cases member
    · cases member
  | anchor condition =>
    intro place inside stop member
    rw [ends] at member
    generalize (if place = 0 then none else text[place - 1]?) = before at member
    split at member
    · cases List.mem_singleton.mp member
      exact ⟨Nat.le_refl _, inside⟩
    · cases member
  | sequence first second ihFirst ihSecond =>
    intro place inside stop member
    obtain ⟨middle, known, next⟩ := mem_sequence.mp member
    have front := ihFirst inside middle known
    have back := ihSecond front.2 stop next
    exact ⟨Nat.le_trans front.1 back.1, back.2⟩
  | choice left right ihLeft ihRight =>
    intro place inside stop member
    rcases mem_choice.mp member with one | other
    · exact ihLeft inside stop one
    · exact ihRight inside stop other
  | repetition body least most ih =>
    intro place inside stop member
    have stays : ∀ middle, place ≤ middle ∧ middle ≤ text.size →
        ∀ stop ∈ body.ends text middle, place ≤ stop ∧ stop ≤ text.size := by
      intro middle within stop next
      have further := ih within.2 stop next
      exact ⟨Nat.le_trans within.1 further.1, further.2⟩
    have start : ∀ stop ∈ iterate (body.ends text) least [place],
        place ≤ stop ∧ stop ≤ text.size := by
      refine forall_iterate stays fun stop member => ?_
      cases List.mem_singleton.mp member
      exact ⟨Nat.le_refl _, inside⟩
    cases most with
    | none => exact forall_reachable stays start stop member
    | some bound => exact forall_reachable stays start stop member

/-- Expressions one behind the other, the last one first. -/
def row : List Regex → Regex
  | [] => .empty
  | last :: before => before.foldl (fun behind part => .sequence part behind) last

/-- Whether expressions, the last one first, match from one place up to another. -/
def Passes (text : Array Char) : List Regex → Nat → Nat → Prop
  | [], place, stop => stop = place
  | last :: before, place, stop =>
    ∃ middle, Passes text before place middle ∧ stop ∈ last.ends text middle

theorem mem_row {regexes : List Regex} :
    stop ∈ (row regexes).ends text place ↔ Passes text regexes place stop := by
  cases regexes with
  | nil => exact List.mem_singleton
  | cons last before =>
    -- The fold puts one part after the other in front, so what stands behind is general here.
    show stop ∈ (before.foldl (fun behind part => .sequence part behind) last).ends text place ↔ _
    induction before generalizing last with
    | nil => exact ⟨fun member => ⟨place, rfl, member⟩, fun ⟨_, same, member⟩ => same ▸ member⟩
    | cons part before ih =>
      rw [List.foldl_cons, ih]
      constructor
      · rintro ⟨start, passed, member⟩
        obtain ⟨middle, known, next⟩ := mem_sequence.mp member
        exact ⟨middle, ⟨start, passed, known⟩, next⟩
      · rintro ⟨middle, ⟨start, passed, known⟩, next⟩
        exact ⟨start, passed, mem_sequence.mpr ⟨middle, known, next⟩⟩

theorem passes_append {regexes : List Regex} {first : Regex} :
    Passes text (regexes ++ [first]) place stop ↔
      ∃ middle ∈ first.ends text place, Passes text regexes middle stop := by
  induction regexes generalizing stop with
  | nil =>
    constructor
    · rintro ⟨start, rfl, member⟩
      exact ⟨stop, member, rfl⟩
    · rintro ⟨middle, member, rfl⟩
      exact ⟨place, rfl, member⟩
  | cons last before ih =>
    constructor
    · rintro ⟨middle, passed, member⟩
      obtain ⟨start, known, further⟩ := ih.mp passed
      exact ⟨start, known, middle, further, member⟩
    · rintro ⟨start, known, middle, further, member⟩
      exact ⟨middle, ih.mpr ⟨start, known, further⟩, member⟩

/-- Whether an expression matches from a place on. -/
def Starts (text : Array Char) (regex : Regex) (place : Nat) : Prop :=
  ∃ stop, stop ∈ regex.ends text place

theorem starts_choice {left right : Regex} :
    Starts text (choice left right) place ↔ Starts text left place ∨ Starts text right place := by
  simp only [Starts, mem_choice, exists_or]

theorem matchesWithin_iff {regex : Regex} {text : String} :
    regex.matchesWithin text = true ↔
      ∃ place ≤ text.toList.toArray.size, Starts text.toList.toArray regex place := by
  unfold matchesWithin
  dsimp only
  rw [List.any_eq_true]
  constructor
  · rintro ⟨place, range, nonempty⟩
    refine ⟨place, Nat.le_of_lt_succ (List.mem_range.mp range), ?_⟩
    exact List.exists_mem_of_ne_nil _ (by simpa using nonempty)
  · rintro ⟨place, inside, stop, member⟩
    refine ⟨place, List.mem_range.mpr (Nat.lt_succ_of_le inside), ?_⟩
    simpa using List.ne_nil_of_mem member

end Regex

open Regex (Passes Starts)

/-- The expressions of parts, without changes of flags. -/
def Parts.regexes (parts : Parts) : List Regex :=
  (parts.filterMap id).map DeepRegex.regex

theorem Parts.regex_row (parts : Parts) : parts.row.regex = Regex.row parts.regexes :=
  rfl

theorem starts_row {parts : Parts} :
    Starts text parts.row.regex place ↔ ∃ stop, Passes text parts.regexes place stop := by
  rw [Parts.regex_row, Starts]
  simp only [Regex.mem_row]

theorem starts_finished {left : DeepRegex} {parts : Parts} :
    Starts text (finished (some left) parts).regex place ↔
      Starts text left.regex place ∨ Starts text parts.row.regex place :=
  Regex.starts_choice

theorem mem_anyNumber (set : Charset) : place ∈ (anyNumber set).regex.ends text place :=
  Regex.mem_ends_of_mayBeEmpty rfl

/-- Any number of characters behind a row does not change where it starts. -/
theorem starts_row_anyNumber {set : Charset} {parts : Parts} :
    Starts text (Parts.row (some (anyNumber set) :: parts)).regex place ↔
      Starts text parts.row.regex place := by
  rw [starts_row, starts_row]
  constructor
  · rintro ⟨stop, middle, passed, _⟩
    exact ⟨middle, passed⟩
  · rintro ⟨middle, passed⟩
    exact ⟨middle, middle, passed, mem_anyNumber set⟩

theorem starts_stretched {set : Charset} {done : Option DeepRegex} {parts : Parts} :
    Starts text (finished done (some (anyNumber set) :: parts)).regex place ↔
      Starts text (finished done parts).regex place := by
  cases done with
  | none => exact starts_row_anyNumber
  | some left => rw [starts_finished, starts_finished, starts_row_anyNumber]

end FleetSearch.Pattern
