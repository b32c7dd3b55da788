import FleetSearch.Text.Split

/-! Texts that are cut at a separator: the pieces have none of it, and the text is given by them. -/

namespace FleetSearch.Text

variable {separator : Char}

theorem splitChars_ne_nil (separator : Char) (chars : List Char) :
    splitChars separator chars ≠ [] := by
  cases chars with
  | nil => simp [splitChars]
  | cons c rest =>
    unfold splitChars
    split
    · simp
    · split <;> simp

theorem intercalate_splitChars (separator : Char) (chars : List Char) :
    [separator].intercalate (splitChars separator chars) = chars := by
  induction chars with
  | nil => rfl
  | cons c rest ih =>
    unfold splitChars
    cases pieces : splitChars separator rest with
    | nil => exact absurd pieces (splitChars_ne_nil separator rest)
    | cons piece others =>
      rw [pieces] at ih
      split
      · rename_i same
        rw [List.intercalate_cons_cons, ih, same]
        rfl
      · cases others with
        | nil => simpa using ih
        | cons next others =>
          rw [List.intercalate_cons_cons] at ih ⊢
          simpa using ih

theorem split_injective {first second : String}
    (same : split separator first = split separator second) : first = second := by
  have pieces : splitChars separator first.toList = splitChars separator second.toList := by
    simpa [split, Function.comp_def] using congrArg (List.map String.toList) same
  have joined := congrArg [separator].intercalate pieces
  rw [intercalate_splitChars, intercalate_splitChars] at joined
  exact String.toList_inj.mp joined

theorem splitChars_of_notMem {piece : List Char} (apart : separator ∉ piece) :
    splitChars separator piece = [piece] := by
  induction piece with
  | nil => rfl
  | cons c rest ih =>
    have ⟨different, apart⟩ : separator ≠ c ∧ separator ∉ rest := by simpa using apart
    simp [splitChars, Ne.symm different, ih apart]

/-- A separator parts what is in front of it from what is behind it. -/
theorem splitChars_append (front back : List Char) :
    splitChars separator (front ++ separator :: back) =
      splitChars separator front ++ splitChars separator back := by
  induction front with
  | nil => simp [splitChars]
  | cons c rest ih =>
    rw [List.cons_append, splitChars, splitChars, ih]
    split
    · rfl
    · cases pieces : splitChars separator rest with
      | nil => exact absurd pieces (splitChars_ne_nil separator rest)
      | cons piece others => rfl

theorem split_append (front back : String) :
    split separator (front ++ String.ofList [separator] ++ back) =
      split separator front ++ split separator back := by
  rw [split, String.toList_append, String.toList_append, String.toList_ofList, List.append_assoc,
    List.singleton_append, splitChars_append, List.map_append]
  rfl

theorem notMem_of_mem_splitChars {chars piece : List Char}
    (member : piece ∈ splitChars separator chars) : separator ∉ piece := by
  induction chars generalizing piece with
  | nil => simp_all [splitChars]
  | cons c rest ih =>
    unfold splitChars at member
    split at member
    · rcases List.mem_cons.mp member with rfl | member
      · simp
      · exact ih member
    · rename_i different
      split at member
      · cases List.mem_singleton.mp member
        simpa using Ne.symm different
      · rename_i first pieces parts
        rcases List.mem_cons.mp member with rfl | member
        · have apart : separator ∉ first := ih (by simp [parts])
          simpa using ⟨Ne.symm different, apart⟩
        · exact ih (by simp [parts, member])

/-- Pieces that are put together are told apart again, if there is one and none has the
separator. -/
theorem splitChars_intercalate {pieces : List (List Char)} (nonempty : pieces ≠ [])
    (apart : ∀ piece ∈ pieces, separator ∉ piece) :
    splitChars separator ([separator].intercalate pieces) = pieces := by
  induction pieces with
  | nil => exact absurd rfl nonempty
  | cons piece rest ih =>
    obtain ⟨first, others⟩ := List.forall_mem_cons.mp apart
    cases rest with
    | nil => rw [List.intercalate_singleton, splitChars_of_notMem first]
    | cons second rest =>
      rw [List.intercalate_cons_cons, List.append_assoc, List.singleton_append, splitChars_append,
        splitChars_of_notMem first, ih (List.cons_ne_nil second rest) others, List.singleton_append]

theorem eq_splitChars_iff {chars : List Char} {pieces : List (List Char)} :
    pieces = splitChars separator chars ↔ pieces ≠ [] ∧ (∀ piece ∈ pieces, separator ∉ piece) ∧
      [separator].intercalate pieces = chars := by
  constructor
  · rintro rfl
    exact ⟨splitChars_ne_nil separator chars, fun _ => notMem_of_mem_splitChars,
      intercalate_splitChars separator chars⟩
  · rintro ⟨nonempty, apart, rfl⟩
    exact (splitChars_intercalate nonempty apart).symm

theorem toList_join (between : String) (pieces : List String) :
    (join between pieces).toList = between.toList.intercalate (pieces.map String.toList) := by
  induction pieces with
  | nil => rfl
  | cons piece rest ih =>
    cases rest with
    | nil => simp [join]
    | cons second rest =>
      rw [join, String.toList_append, String.toList_append, ih, List.map_cons, List.map_cons,
        List.map_cons, List.intercalate_cons_cons]
      simp

/-- Texts between commas can be told apart again, if there is a text and none has a comma. -/
theorem split_join {pieces : List String} (nonempty : pieces ≠ [])
    (apart : ∀ piece ∈ pieces, ',' ∉ piece.toList) : split ',' (join "," pieces) = pieces := by
  have joined : (join "," pieces).toList = [','].intercalate (pieces.map String.toList) :=
    toList_join "," pieces
  rw [split, joined, splitChars_intercalate (by simpa using nonempty) (by simpa using apart)]
  simp

/-- Nonempty texts without commas are given by the text that has commas between them. -/
theorem join_injective {first second : List String}
    (firstApart : ∀ piece ∈ first, piece ≠ "" ∧ ',' ∉ piece.toList)
    (secondApart : ∀ piece ∈ second, piece ≠ "" ∧ ',' ∉ piece.toList)
    (same : join "," first = join "," second) : first = second := by
  have unjoined {pieces : List String} (apart : ∀ piece ∈ pieces, piece ≠ "" ∧ ',' ∉ piece.toList) :
      pieces = (split ',' (join "," pieces)).filter (· ≠ "") := by
    cases pieces with
    | nil => simp [join, split, splitChars]
    | cons piece rest =>
      rw [split_join (by simp) fun other member => (apart other member).2]
      exact (List.filter_eq_self.mpr fun other member => by simpa using (apart other member).1).symm
  rw [unjoined firstApart, unjoined secondApart, same]

end FleetSearch.Text
