import FleetSearch.Proofs.Json.Strings
import FleetSearch.Proofs.Json.Values

/-! Values written and read back: the text of a value whose numbers are whole is read as the
document of the value. -/

namespace FleetSearch.Json

section Reading

variable {fuel : Nat} {c : Char} {chars behind rest : List Char}

@[simp] theorem skipGap_of_not_isGap (dense : isGap c = false) :
    skipGap (c :: chars) = c :: chars := by
  simp [skipGap, dense]

theorem isGap_of_isDigit (digit : isDigit c = true) : isGap c = false := by
  by_contra gap
  simp only [isGap, Bool.or_eq_true, beq_iff_eq, Bool.not_eq_false] at gap
  rcases gap with ((rfl | rfl) | rfl) | rfl <;> cases digit

theorem term?_of_isDigit (digit : isDigit c = true) : term? (fuel + 1) (c :: chars) =
    (literal? false (c :: chars)).map fun read => (.number read.1.number?, read.2) := by
  have whole : skipGap (c :: chars) = c :: chars := skipGap_of_not_isGap (isGap_of_isDigit digit)
  rw [term?, whole]
  split
  -- Every other kind of document starts with a character that is no digit.
  all_goals
    first
    | (rename_i same; obtain ⟨rfl, _⟩ := List.cons.inj same; cases digit)
    | (cases literal? false (c :: chars) <;> rfl)

theorem term?_string (text : String) (rest : List Char) :
    term? (fuel + 1) (writeString text ++ rest) = some (.string (some text), rest) := by
  obtain ⟨behind, written, read⟩ := text?_writeString text rest
  simp [written, term?, isGap, read]

variable {item : Term} {items : List Term}

theorem items?_last (read : term? fuel chars = some (item, ']' :: rest)) :
    items? (fuel + 1) chars = some ([item], rest) := by
  simp [items?, read, isGap]

theorem items?_more (read : term? fuel chars = some (item, ',' :: behind))
    (others : items? fuel behind = some (items, rest)) :
    items? (fuel + 1) chars = some (item :: items, rest) := by
  simp [items?, read, isGap, others]

theorem term?_array (dense : isGap c = false) (more : c ≠ ']')
    (read : items? fuel (c :: chars) = some (items, rest)) :
    term? (fuel + 1) ('[' :: c :: chars) = some (.array items, rest) := by
  have whole : skipGap ('[' :: c :: chars) = '[' :: c :: chars := skipGap_of_not_isGap rfl
  simp only [term?, whole, skipGap_of_not_isGap dense]
  split
  · rename_i same
    exact absurd (List.cons.inj same).1 more
  · simp [read]

variable {members : List (Option String × Term)}

theorem term?_object (read : members? fuel ('"' :: chars) = some (members, rest)) :
    term? (fuel + 1) ('\x7b' :: '"' :: chars) = some (.object members, rest) := by
  simp [term?, isGap, read]

theorem members?_last (key : String) (read : term? fuel chars = some (item, '\x7d' :: rest)) :
    members? (fuel + 1) (writeString key ++ ':' :: chars) = some ([(some key, item)], rest) := by
  obtain ⟨behind, written, name⟩ := text?_writeString key (':' :: chars)
  simp [written, members?, isGap, name, read]

theorem members?_more (key : String) (read : term? fuel chars = some (item, ',' :: behind))
    (others : members? fuel behind = some (members, rest)) :
    members? (fuel + 1) (writeString key ++ ':' :: chars) =
      some ((some key, item) :: members, rest) := by
  obtain ⟨quotes, written, name⟩ := text?_writeString key (':' :: chars)
  simp [written, members?, isGap, name, read, others]

end Reading

theorem digits_eq_cons_isDigit (value : Nat) : ∃ c more,
    Text.digits 10 value = c :: more ∧ isDigit c = true := by
  cases written : Text.digits 10 value with
  | nil => exact absurd written (Text.digits_ne_nil 10 value)
  | cons c more =>
    have member : c ∈ Text.digits 10 value := by
      rw [written]
      exact List.mem_cons_self
    exact ⟨c, more, rfl, isDigit_of_mem_digits member⟩

theorem Number.term?_write {number : Number} {fuel : Nat} {rest : List Char}
    (whole : number.IsWhole) (stops : Stops rest) :
    term? (fuel + 1) (number.write.toList ++ rest) = some (.number (some number), rest) := by
  rcases whole.cases with ⟨value, written, read⟩ | ⟨chars, literal, written, read, taken⟩
  · obtain ⟨c, more, digits, digit⟩ := digits_eq_cons_isDigit value
    have taken : literal? false (Text.digits 10 value ++ rest) =
        some (⟨false, Text.digits 10 value, none, none⟩, rest) := literal?_digits false stops
    rw [digits, List.cons_append] at taken
    rw [written, digits, List.cons_append, term?_of_isDigit digit, taken, ← digits]
    simp [read]
  · rw [written, List.cons_append]
    simp [term?, isGap, taken rest stops, read]

/-- No gap leads the text of a value, and it does not look like the end of an array. -/
theorem Value.chars_eq_cons {value : Value} (whole : value.Every Value.IsWhole) :
    ∃ c more, value.chars = c :: more ∧ isGap c = false ∧ c ≠ ']' := by
  cases value with
  | null => exact ⟨'n', _, rfl, rfl, by decide⟩
  | bool flag =>
    cases flag
    · exact ⟨'f', _, rfl, rfl, by decide⟩
    · exact ⟨'t', _, rfl, rfl, by decide⟩
  | number number =>
    rcases Number.IsWhole.cases whole with ⟨value, written, _⟩ | ⟨chars, _, written, _⟩
    · obtain ⟨c, more, digits, digit⟩ := digits_eq_cons_isDigit value
      refine ⟨c, more, written.trans digits, isGap_of_isDigit digit, ?_⟩
      rintro rfl
      cases digit
    · exact ⟨'-', chars, written, rfl, by decide⟩
  | string text => exact ⟨'"', _, rfl, rfl, by decide⟩
  | array items => exact ⟨'[', _, rfl, rfl, by decide⟩
  | object members => exact ⟨'\x7b', _, rfl, rfl, by decide⟩

theorem commaSeparated_cons_cons (part next : List Char) (rest : List (List Char)) :
    commaSeparated (part :: next :: rest) = part ++ ',' :: commaSeparated (next :: rest) := by
  rw [commaSeparated]
  simp

theorem commaSeparated_of_cons (c : Char) (chars : List Char) (rest : List (List Char)) :
    ∃ behind, commaSeparated ((c :: chars) :: rest) = c :: behind := by
  cases rest with
  | nil => exact ⟨chars, by simp [commaSeparated]⟩
  | cons next others => exact ⟨_, commaSeparated_cons_cons (c :: chars) next others⟩

mutual

theorem Value.term?_chars : ∀ {value : Value} {fuel : Nat} {rest : List Char},
    value.Every Value.IsWhole → Stops rest → value.chars.length < fuel →
      term? fuel (value.chars ++ rest) = some (Term.ofValue value, rest)
  | value, 0, _, _, _, enough => absurd enough (Nat.not_lt_zero _)
  | .null, fuel + 1, rest, _, _, _ => by simp [Value.chars, term?, isGap, Term.ofValue]
  | .bool true, fuel + 1, rest, _, _, _ => by
    simp [Value.chars, term?, isGap, Term.ofValue]
  | .bool false, fuel + 1, rest, _, _, _ => by
    simp [Value.chars, term?, isGap, Term.ofValue]
  | .number number, fuel + 1, rest, whole, stops, _ => Number.term?_write whole stops
  | .string text, fuel + 1, rest, _, _, _ => term?_string text rest
  | .array [], fuel + 1, rest, _, _, _ => by
    simp [Value.chars, itemsChars, commaSeparated, term?, isGap, Term.ofValue, itemTerms]
  | .array (item :: items), fuel + 1, rest, whole, _, enough => by
    simp only [Value.chars, List.cons_append, List.length_cons, List.length_append] at enough
    have read : items? fuel (commaSeparated (itemsChars (item :: items)) ++ ']' :: rest) =
        some (itemTerms (item :: items), rest) := items?_chars whole.2 (by omega)
    obtain ⟨c, chars, first, dense, inside⟩ := Value.chars_eq_cons whole.2.1
    obtain ⟨more, written⟩ := commaSeparated_of_cons c chars (itemsChars items)
    rw [← first, ← itemsChars] at written
    have text : (Value.array (item :: items)).chars ++ rest =
        '[' :: c :: (more ++ ']' :: rest) := by
      simp [Value.chars, written]
    rw [text]
    rw [written] at read
    exact term?_array dense inside read
  | .object [], fuel + 1, rest, _, _, _ => by
    simp [Value.chars, membersChars, commaSeparated, term?, isGap, Term.ofValue,
      memberTerms]
  | .object ((key, value) :: members), fuel + 1, rest, whole, _, enough => by
    simp only [Value.chars, List.cons_append, List.length_cons, List.length_append] at enough
    have read : members? fuel (commaSeparated (membersChars ((key, value) :: members)) ++
        '\x7d' :: rest) = some (memberTerms ((key, value) :: members), rest) :=
      members?_chars whole.2 (by omega)
    obtain ⟨more, written⟩ : ∃ more,
        commaSeparated (membersChars ((key, value) :: members)) = '"' :: more :=
      commaSeparated_of_cons '"' _ (membersChars members)
    have text : (Value.object ((key, value) :: members)).chars ++ rest =
        '\x7b' :: '"' :: (more ++ '\x7d' :: rest) := by
      simp [Value.chars, written]
    rw [text]
    rw [written] at read
    exact term?_object read

theorem items?_chars : ∀ {item : Value} {items : List Value} {fuel : Nat} {rest : List Char},
    ItemsEvery Value.IsWhole (item :: items) →
      (commaSeparated (itemsChars (item :: items))).length + 1 < fuel →
      items? fuel (commaSeparated (itemsChars (item :: items)) ++ ']' :: rest) =
        some (itemTerms (item :: items), rest)
  | _, _, 0, _, _, enough => absurd enough (Nat.not_lt_zero _)
  | item, [], fuel + 1, rest, whole, enough => by
    simp only [itemsChars, commaSeparated] at enough ⊢
    exact items?_last (Value.term?_chars whole.1 (.inr (.inl rfl)) (by omega))
  | item, next :: items, fuel + 1, rest, whole, enough => by
    simp only [itemsChars, commaSeparated_cons_cons, List.length_append, List.length_cons,
      List.append_assoc, List.cons_append] at enough ⊢
    have others : items? fuel (commaSeparated (itemsChars (next :: items)) ++ ']' :: rest) =
        some (itemTerms (next :: items), rest) := by
      refine items?_chars whole.2 ?_
      simp only [itemsChars]
      omega
    exact items?_more (Value.term?_chars whole.1 (.inl rfl) (by omega)) others

theorem members?_chars : ∀ {key : String} {value : Value} {members : List (String × Value)}
    {fuel : Nat} {rest : List Char}, MembersEvery Value.IsWhole ((key, value) :: members) →
      (commaSeparated (membersChars ((key, value) :: members))).length + 1 < fuel →
      members? fuel (commaSeparated (membersChars ((key, value) :: members)) ++ '\x7d' :: rest) =
        some (memberTerms ((key, value) :: members), rest)
  | _, _, _, 0, _, _, enough => absurd enough (Nat.not_lt_zero _)
  | key, value, [], fuel + 1, rest, whole, enough => by
    simp only [membersChars, commaSeparated, List.length_append, List.length_cons] at enough
    simp only [membersChars, commaSeparated, List.append_assoc, List.cons_append]
    exact members?_last key (Value.term?_chars whole.1 (.inr (.inr rfl)) (by omega))
  | key, value, (name, next) :: members, fuel + 1, rest, whole, enough => by
    simp only [membersChars, commaSeparated_cons_cons, List.length_append, List.length_cons,
      List.append_assoc, List.cons_append] at enough ⊢
    have others : members? fuel (commaSeparated (membersChars ((name, next) :: members)) ++
        '\x7d' :: rest) = some (memberTerms ((name, next) :: members), rest) := by
      refine members?_chars whole.2 ?_
      simp only [membersChars]
      omega
    exact members?_more key (Value.term?_chars whole.1 (.inl rfl) (by omega)) others

end

/-- A value that is written is read as its document. -/
theorem Term.read?_write {value : Value} (whole : value.Every Value.IsWhole) :
    Term.read? value.write = some (Term.ofValue value) := by
  have read : term? (value.chars.length + 1) (value.chars ++ []) = some (Term.ofValue value, []) :=
    Value.term?_chars whole trivial (Nat.lt_succ_self _)
  have text : value.write.toList = value.chars := String.toList_ofList
  rw [List.append_nil] at read
  simp only [Term.read?, text, read, Option.bind_eq_bind, Option.bind_some]
  rfl

end FleetSearch.Json
