import FleetSearch.Unicode.Blank

/-! Text without the blanks at its ends: all that is left out is blank, and what is left neither
starts nor ends with a blank. -/

namespace FleetSearch.Unicode

variable {chars before core : List Char}

/-- Whether characters are others without blanks in front of them and behind them. -/
structure Trims (chars core : List Char) : Prop where
  around : ∃ before after, chars = before ++ core ++ after ∧
    (∀ c ∈ before, isBlank c = true) ∧ ∀ c ∈ after, isBlank c = true
  first : ∀ c ∈ core.head?, isBlank c = false
  last : ∀ c ∈ core.getLast?, isBlank c = false

theorem trimChars_subset (chars : List Char) : trimChars chars ⊆ chars := by
  intro c member
  have inner := List.dropWhile_subset isBlank (List.mem_reverse.mp member)
  exact List.dropWhile_subset isBlank (List.mem_reverse.mp inner)

theorem head_dropWhile (chars : List Char) :
    ∀ c ∈ (chars.dropWhile isBlank).head?, isBlank c = false := by
  intro c found
  have unlike := List.head?_dropWhile_not isBlank chars
  rw [Option.mem_def.mp found] at unlike
  exact unlike

theorem dropWhile_append (blank : ∀ c ∈ before, isBlank c = true)
    (first : ∀ c ∈ core.head?, isBlank c = false) :
    (before ++ core).dropWhile isBlank = core := by
  rw [List.dropWhile_append_of_pos blank]
  cases core with
  | nil => rfl
  | cons c rest => simp [first c rfl]

theorem dropWhile_eq_trimChars_append (chars : List Char) : chars.dropWhile isBlank =
    trimChars chars ++ ((chars.dropWhile isBlank).reverse.takeWhile isBlank).reverse := by
  rw [trimChars, ← List.reverse_append, List.takeWhile_append_dropWhile, List.reverse_reverse]

theorem trims_trimChars (chars : List Char) : Trims chars (trimChars chars) := by
  have blank (chars : List Char) : ∀ c ∈ chars.takeWhile isBlank, isBlank c = true :=
    List.all_eq_true.mp List.all_takeWhile
  have parts : chars = chars.takeWhile isBlank ++ trimChars chars ++
      ((chars.dropWhile isBlank).reverse.takeWhile isBlank).reverse := by
    rw [List.append_assoc, ← dropWhile_eq_trimChars_append, List.takeWhile_append_dropWhile]
  refine ⟨⟨_, _, parts, blank _, ?_⟩, ?_, ?_⟩
  · intro c member
    exact blank _ c (List.mem_reverse.mp member)
  · intro c found
    obtain ⟨rest, starts⟩ := List.head?_eq_some_iff.mp found
    refine head_dropWhile chars c ?_
    rw [dropWhile_eq_trimChars_append, starts]
    rfl
  · intro c found
    rw [trimChars, List.getLast?_reverse] at found
    exact head_dropWhile _ c found

/-- The characters that are left are those between the blanks. -/
theorem trims_iff : Trims chars core ↔ core = trimChars chars := by
  constructor
  · rintro ⟨⟨before, after, rfl, front, back⟩, first, last⟩
    cases core with
    | nil =>
      have blank : ∀ c ∈ before ++ after, isBlank c = true := by
        intro c member
        exact (List.mem_append.mp member).elim (front c) (back c)
      have nothing : (before ++ after ++ []).dropWhile isBlank = [] := dropWhile_append blank first
      rw [List.append_nil] at nothing ⊢
      rw [trimChars, nothing]
      rfl
    | cons c rest =>
      have start : ∀ d ∈ (c :: rest ++ after).head?, isBlank d = false := first
      have stop : ∀ d ∈ (c :: rest).reverse.head?, isBlank d = false := by
        rwa [List.head?_reverse]
      have behind : ∀ d ∈ after.reverse, isBlank d = true := by
        intro d member
        exact back d (List.mem_reverse.mp member)
      rw [trimChars, List.append_assoc, dropWhile_append front start, List.reverse_append,
        dropWhile_append behind stop, List.reverse_reverse]
  · rintro rfl
    exact trims_trimChars chars

end FleetSearch.Unicode
