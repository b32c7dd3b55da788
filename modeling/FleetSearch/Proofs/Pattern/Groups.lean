import FleetSearch.Proofs.Pattern.Endings

/-! Starts of groups and counts of repetitions that are read in front of a dot and a star: neither
is a part of one, so they are read as in a pattern that ends behind them. -/

namespace FleetSearch.Pattern

variable {flags : Flags} {chars longer : List Char}

namespace Longer

theorem isPrefixOf_eq {mark : List Char} (extended : Longer chars longer) (dot : '.' ∉ mark) :
    mark.isPrefixOf longer = mark.isPrefixOf chars := by
  rcases extended with rfl | ⟨rfl, rfl⟩
  · induction mark generalizing chars with
    | nil => rfl
    | cons c mark ih =>
      obtain ⟨other, later⟩ := not_or.mp (List.mem_cons.not.mp dot)
      cases chars with
      | nil => simp [anything, List.isPrefixOf, Ne.symm other]
      | cons d rest => rw [List.cons_append, List.isPrefixOf, List.isPrefixOf, ih later]
  · rfl

end Longer

theorem flagLetters?_append (flags : Flags) (seen : List Char) (value afterHyphen : Bool)
    (chars : List Char) :
    flagLetters? flags seen value afterHyphen chars = none ∧
        flagLetters? flags seen value afterHyphen (chars ++ anything) = none ∨
      ∃ found any c rest,
        flagLetters? flags seen value afterHyphen chars = some (found, any, c :: rest) ∧
          flagLetters? flags seen value afterHyphen (chars ++ anything) =
            some (found, any, c :: (rest ++ anything)) := by
  induction chars generalizing flags seen value afterHyphen with
  | nil =>
    refine .inl ⟨rfl, ?_⟩
    simp [anything, flagLetters?, setFlag?]
  | cons c rest ih =>
    rw [List.cons_append, flagLetters?, flagLetters?]
    split
    · split
      · exact .inl ⟨rfl, rfl⟩
      · exact .inr ⟨_, _, c, rest, rfl, rfl⟩
    · split
      · split
        · exact ih _ _ _ _
        · exact .inl ⟨rfl, rfl⟩
      · split
        · exact .inl ⟨rfl, rfl⟩
        · split
          · exact ih _ _ _ _
          · exact .inl ⟨rfl, rfl⟩

theorem groupName?_append (chars : List Char) :
    Alike Prod.mk (groupName? chars) (groupName? (chars ++ anything)) := by
  refine (cutChars_alike (by decide) chars).bind fun name rest behind extended => ?_
  dsimp only
  split
  · exact .none
  · split
    · exact .some _ extended
    · exact .none

/-- Puts a text beside an opening, as what is left to read with the given flags and names. -/
def placed (found : Opening × Flags × List String) (rest : List Char) : Opening × Cursor :=
  (found.1, { rest, flags := found.2.1, names := found.2.2 })

/-- A group behind the sign for its name. -/
def namedOpening? (flags : Flags) (names : List String) (chars : List Char) :
    Option (Opening × Cursor) :=
  (groupName? chars).bind fun (name, rest) =>
    if names.contains name then none
    else some (.group flags (some name), { rest, flags, names := name :: names })

/-- A group with flags, or flags alone, behind the question mark. -/
def flagOpening? (flags : Flags) (names : List String) (chars : List Char) :
    Option (Opening × Cursor) :=
  (flagLetters? flags [] true false chars).bind fun (found, any, rest) =>
    match rest with
    | ':' :: rest => some (.group found none, { rest, flags, names })
    | _ :: rest => if any then some (.flags found, { rest, flags, names }) else none
    | [] => none

theorem Cursor.skipSpace_eq (cursor : Cursor) :
    cursor.skipSpace = { cursor with rest := skipped cursor.flags cursor.rest } := by
  unfold skipSpace skipped
  split <;> rfl

/-- What follows an opening parenthesis and a question mark. -/
def markedOpening? (flags : Flags) (names : List String) (chars : List Char) :
    Option (Opening × Cursor) :=
  match chars with
  | 'P' :: '<' :: rest => namedOpening? flags names rest
  | '<' :: rest => namedOpening? flags names rest
  | rest => flagOpening? flags names rest

/-- What follows an opening parenthesis and the blanks behind it. -/
def bareOpening? (flags : Flags) (names : List String) (chars : List Char) :
    Option (Opening × Cursor) :=
  if looksAround chars then none
  else
    match chars with
    | '?' :: rest => markedOpening? flags names rest
    | rest => some (.group flags none, { rest, flags, names })

theorem markedOpening?_plain {names : List String} (short : ∀ rest, chars ≠ '<' :: rest)
    (long : ∀ rest, chars ≠ 'P' :: '<' :: rest) :
    markedOpening? flags names chars = flagOpening? flags names chars := by
  unfold markedOpening?
  split
  · exact absurd rfl (long _)
  · exact absurd rfl (short _)
  · rfl

theorem bareOpening?_plain {names : List String} (mark : ∀ rest, chars ≠ '?' :: rest)
    (around : looksAround chars = false) :
    bareOpening? flags names chars =
      some (.group flags none, { rest := chars, flags, names }) := by
  unfold bareOpening?
  rw [around]
  split
  · contradiction
  · split
    · exact absurd rfl (mark _)
    · rfl

theorem opening?_eq (chars : List Char) (flags : Flags) (names : List String) :
    opening? { rest := chars, flags, names } =
      bareOpening? flags names (Cursor.skipped flags chars) := by
  unfold opening?
  rw [Cursor.skipSpace_eq]
  dsimp only
  generalize Cursor.skipped flags chars = rest
  split
  · rename_i around
    exact (if_pos around).symm
  · rename_i around
    split
    · exact (if_neg around).symm
    · exact (if_neg around).symm
    · rename_i rest long short
      refine Eq.trans ?_ (if_neg around).symm
      exact (markedOpening?_plain (fun behind same => short behind (same ▸ rfl))
        fun behind same => long behind (same ▸ rfl)).symm
    · rename_i rest _ _ marked
      exact (bareOpening?_plain marked (by simpa using around)).symm

theorem namedOpening?_append (flags : Flags) (names : List String) (chars : List Char) :
    Alike placed (namedOpening? flags names chars)
      (namedOpening? flags names (chars ++ anything)) := by
  refine (groupName?_append chars).bind fun name rest behind extended => ?_
  dsimp only
  split
  · exact .none
  · exact .some (Opening.group flags (some name), flags, name :: names) extended

theorem flagOpening?_append (flags : Flags) (names : List String) (chars : List Char) :
    Alike placed (flagOpening? flags names chars)
      (flagOpening? flags names (chars ++ anything)) := by
  unfold flagOpening?
  rcases flagLetters?_append flags [] true false chars with
    ⟨alone, ahead⟩ | ⟨found, any, c, rest, alone, ahead⟩
  · rw [alone, ahead]
    exact .none
  · rw [alone, ahead]
    dsimp only [Option.bind_some]
    by_cases colon : c = ':'
    · subst colon
      exact .some (Opening.group found none, flags, names) (.append rest)
    · split
      · rename_i same
        exact absurd (List.cons.inj same).1 colon
      · split
        · rename_i same _
          cases same
          exact .some (Opening.flags found, flags, names) (.append rest)
        · exact .none
      · rename_i same
        cases same

theorem looksAround_longer (extended : Longer chars longer) :
    looksAround longer = looksAround chars := by
  unfold looksAround
  rw [extended.isPrefixOf_eq (by decide), extended.isPrefixOf_eq (by decide),
    extended.isPrefixOf_eq (by decide), extended.isPrefixOf_eq (by decide)]

theorem markedOpening?_append (flags : Flags) (names : List String) (chars : List Char) :
    Alike placed (markedOpening? flags names chars)
      (markedOpening? flags names (chars ++ anything)) := by
  have letters := flagOpening?_append flags names chars
  rcases (Longer.append chars).starts_or '<' (by decide) with ⟨name, rfl, _⟩ | ⟨alone, ahead⟩
  · exact namedOpening?_append flags names name
  rcases (Longer.append chars).starts_or 'P' (by decide) with ⟨rest, rfl, _⟩ | ⟨plain, _⟩
  · rcases (Longer.append rest).starts_or '<' (by decide) with ⟨name, rfl, _⟩ | ⟨bare, more⟩
    · exact namedOpening?_append flags names name
    · rw [markedOpening?_plain alone fun behind same => bare behind (List.cons.inj same).2,
        markedOpening?_plain ahead fun behind same => more behind (List.cons.inj same).2]
      exact letters
  · rename_i more
    rw [markedOpening?_plain alone fun behind => plain _,
      markedOpening?_plain ahead fun behind => more _]
    exact letters

theorem bareOpening?_longer (flags : Flags) (names : List String)
    (extended : Longer chars longer) :
    Alike placed (bareOpening? flags names chars) (bareOpening? flags names longer) := by
  have looks := looksAround_longer extended
  cases around : looksAround chars with
  | true =>
    rw [around] at looks
    unfold bareOpening?
    rw [around, looks]
    exact .none
  | false =>
    rcases extended.starts_or '?' (by decide) with ⟨rest, rfl, rfl⟩ | ⟨alone, ahead⟩
    · unfold bareOpening?
      rw [looks, around]
      exact markedOpening?_append flags names rest
    · rw [bareOpening?_plain alone around, bareOpening?_plain ahead (looks.trans around)]
      exact .some (Opening.group flags none, flags, names) extended

theorem opening?_longer (flags : Flags) (names : List String) (extended : Longer chars longer) :
    Alike placed (opening? { rest := chars, flags, names })
      (opening? { rest := longer, flags, names }) := by
  rw [opening?_eq, opening?_eq]
  exact bareOpening?_longer flags names (Cursor.skipped_longer flags extended)

theorem skipBlanks_longer (extended : Longer chars longer) :
    Longer (skipBlanks chars) (skipBlanks longer) := by
  rcases extended with rfl | ⟨rfl, rfl⟩
  · unfold skipBlanks
    induction chars with
    | nil => exact .inl (by decide)
    | cons c rest ih =>
      rw [List.cons_append, List.dropWhile_cons, List.dropWhile_cons]
      split
      · exact ih
      · exact .append _
  · exact .inr ⟨rfl, rfl⟩

theorem leadingDigits_append (spaced inComment : Bool) (chars : List Char) :
    (leadingDigits spaced inComment (chars ++ anything)).1 =
        (leadingDigits spaced inComment chars).1 ∧
      Longer (leadingDigits spaced inComment chars).2
        (leadingDigits spaced inComment (chars ++ anything)).2 := by
  induction chars generalizing inComment with
  | nil =>
    have dot : Unicode.isBlank '.' = false := by decide
    cases inComment with
    | false =>
      have plain : leadingDigits spaced false anything = ([], anything) := by
        simp [leadingDigits, anything, dot]
      rw [List.nil_append, plain]
      exact ⟨rfl, .append []⟩
    | true => exact ⟨rfl, .inr ⟨rfl, rfl⟩⟩
  | cons c rest ih =>
    rw [List.cons_append, leadingDigits, leadingDigits]
    split
    · exact ih _
    · split
      · exact ⟨congrArg (c :: ·) (ih false).1, (ih false).2⟩
      · split
        · exact ih _
        · split
          · exact ih _
          · exact ⟨rfl, .append _⟩

theorem leadingDigits_longer (spaced : Bool) (extended : Longer chars longer) :
    (leadingDigits spaced false longer).1 = (leadingDigits spaced false chars).1 ∧
      Longer (leadingDigits spaced false chars).2 (leadingDigits spaced false longer).2 := by
  rcases extended with rfl | ⟨rfl, rfl⟩
  · exact leadingDigits_append spaced false chars
  · exact ⟨rfl, .inr ⟨rfl, rfl⟩⟩

theorem countNumber?_longer (flags : Flags) (extended : Longer chars longer) :
    Alike Prod.mk (countNumber? flags chars) (countNumber? flags longer) := by
  obtain ⟨digits, rests⟩ := leadingDigits_longer flags.spaced (skipBlanks_longer extended)
  unfold countNumber?
  dsimp only
  rw [digits]
  cases Text.natural? 10 (leadingDigits flags.spaced false (skipBlanks chars)).1 with
  | none => exact .none
  | some value =>
    rw [Option.bind_eq_bind, Option.bind_some, Option.bind_some]
    split
    · exact .some value (skipBlanks_longer rests)
    · exact .none

/-- The greatest number of repetitions, behind the comma and the blanks there. -/
def upTo? (flags : Flags) (least : Nat) (chars : List Char) :
    Option (Nat × Option Nat × List Char) :=
  match chars with
  | '\x7d' :: rest => some (least, none, rest)
  | rest =>
    (countNumber? flags rest).bind fun (most, rest) =>
      match rest with
      | '\x7d' :: rest => if least ≤ most then some (least, some most, rest) else none
      | _ => none

theorem upTo?_longer (flags : Flags) (least : Nat) (extended : Longer chars longer) :
    Alike beside (upTo? flags least chars) (upTo? flags least longer) := by
  unfold upTo?
  rcases extended.starts_or '\x7d' (by decide) with ⟨rest, rfl, rfl⟩ | ⟨alone, ahead⟩
  · exact .some (least, Option.none) (.append rest)
  · split
    · exact absurd rfl (alone _)
    · refine (countNumber?_longer flags extended).bind fun most rest behind extended => ?_
      dsimp only
      rcases extended.starts_or '\x7d' (by decide) with ⟨rest, rfl, rfl⟩ | ⟨alone, ahead⟩
      · show Alike beside (if least ≤ most then some (least, some most, rest) else none)
          (if least ≤ most then some (least, some most, rest ++ anything) else none)
        split
        · exact .some (least, some most) (.append rest)
        · exact .none
      · split
        · exact absurd rfl (alone _)
        · exact .none

theorem count?_longer (flags : Flags) (extended : Longer chars longer) :
    Alike beside (count? flags chars) (count? flags longer) := by
  refine (countNumber?_longer flags (Cursor.skipped_longer flags extended)).bind
    fun least rest behind extended => ?_
  dsimp only
  rcases extended.starts_or '\x7d' (by decide) with ⟨rest, rfl, rfl⟩ | ⟨closedAlone, closedAhead⟩
  · exact .some (least, some least) (.append rest)
  rcases extended.starts_or ',' (by decide) with ⟨rest, rfl, rfl⟩ | ⟨alone, ahead⟩
  · exact upTo?_longer flags least (Cursor.skipped_longer flags (.append rest))
  · split
    · exact absurd rfl (closedAlone _)
    · exact absurd rfl (alone _)
    · exact .none

theorem skipLazy_longer (extended : Longer chars longer) :
    Longer (skipLazy chars) (skipLazy longer) := by
  unfold skipLazy
  rcases extended.starts_or '?' (by decide) with ⟨rest, rfl, rfl⟩ | ⟨alone, ahead⟩
  · exact .append rest
  · split
    · exact absurd rfl (alone _)
    · exact extended

end FleetSearch.Pattern
