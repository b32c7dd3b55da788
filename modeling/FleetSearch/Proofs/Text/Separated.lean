/-! Texts put together from others: when a text with a separator in it has a second reading, and
when characters are spelled so that a text of them has only one. -/

namespace FleetSearch.Text

/-- Whether a text is another one with something more behind a separator. -/
def Extends (separator text other : String) : Prop :=
  ∃ rest, text = other ++ separator ++ rest

section Separator

variable {separator : String} {bar : Char} (single : separator.toList = [bar])

include single

theorem Extends.ne {text other : String} (longer : Extends separator text other) :
    text ≠ other := by
  rintro rfl
  obtain ⟨rest, same⟩ := longer
  have length := congrArg List.length (congrArg String.toList same)
  simp only [String.toList_append, List.length_append, single, List.length_singleton] at length
  omega

/-- Where the separators of two equal texts can be: in one place, or one within the front of the
other. -/
theorem separator_cases {front other back behind : String}
    (same : front ++ separator ++ back = other ++ separator ++ behind) :
    (front = other ∧ back = behind) ∨
      (∃ rest, other = front ++ separator ++ rest ∧ back = rest ++ separator ++ behind) ∨
      ∃ rest, front = other ++ separator ++ rest ∧ behind = rest ++ separator ++ back := by
  have chars : front.toList ++ bar :: back.toList = other.toList ++ bar :: behind.toList := by
    simpa [single] using congrArg String.toList same
  have cut {long short : String} {between : List Char} {first second : List Char}
      (later : long.toList = short.toList ++ between)
      (split : bar :: first = between ++ bar :: second) :
      (long = short ∧ first = second) ∨ ∃ rest : String,
        long = short ++ separator ++ rest ∧ first = rest.toList ++ bar :: second := by
    cases between with
    | nil => exact .inl ⟨String.toList_inj.mp (by simpa using later), by simpa using split⟩
    | cons c rest =>
      obtain ⟨rfl, split⟩ := List.cons.inj split
      exact .inr ⟨String.ofList rest, String.toList_inj.mp (by simpa [single] using later),
        by simpa using split⟩
  rcases List.append_eq_append_iff.mp chars with ⟨between, later, split⟩ | ⟨between, later, split⟩
  · rcases cut later split with ⟨same, texts⟩ | ⟨rest, extended, texts⟩
    · exact .inl ⟨same.symm, String.toList_inj.mp texts⟩
    · exact .inr (.inl ⟨rest, extended, String.toList_inj.mp (by simpa [single] using texts)⟩)
  · rcases cut later split with ⟨same, texts⟩ | ⟨rest, extended, texts⟩
    · exact .inl ⟨same, (String.toList_inj.mp texts).symm⟩
    · exact .inr (.inr ⟨rest, extended, String.toList_inj.mp (by simpa [single] using texts)⟩)

/-- Texts under different fronts are kept apart if neither front extends the other. -/
theorem eq_of_separated {front other back behind : String}
    (apart : ¬ Extends separator front other ∧ ¬ Extends separator other front)
    (same : front ++ separator ++ back = other ++ separator ++ behind) :
    front = other ∧ back = behind := by
  rcases separator_cases single same with together | ⟨rest, longer, _⟩ | ⟨rest, longer, _⟩
  · exact together
  · exact absurd ⟨rest, longer⟩ apart.2
  · exact absurd ⟨rest, longer⟩ apart.1

end Separator

/-- A text whose characters are spelled one by one up to a mark has one reading, if a spelling can
be told from what follows and never starts with the mark. -/
theorem flatMap_cancel {α β : Type} {spell : α → List β} {mark : β}
    (told : ∀ a b rest other, spell a ++ rest = spell b ++ other → a = b ∧ rest = other)
    (unmarked : ∀ a rest other, spell a ++ rest ≠ mark :: other) {first second : List α}
    {rest other : List β}
    (same : first.flatMap spell ++ mark :: rest = second.flatMap spell ++ mark :: other) :
    first = second ∧ rest = other := by
  induction first generalizing second with
  | nil =>
    cases second with
    | nil => exact ⟨rfl, (List.cons.inj same).2⟩
    | cons b second =>
      rw [List.flatMap_cons, List.append_assoc] at same
      exact absurd same.symm (unmarked b _ _)
  | cons a first ih =>
    rw [List.flatMap_cons, List.append_assoc] at same
    cases second with
    | nil => exact absurd same (unmarked a _ _)
    | cons b second =>
      rw [List.flatMap_cons, List.append_assoc] at same
      obtain ⟨rfl, remaining⟩ := told a b _ _ same
      obtain ⟨rfl, behind⟩ := ih remaining
      exact ⟨rfl, behind⟩

end FleetSearch.Text
