import FleetSearch.Proofs.Pattern.Classes
import FleetSearch.Proofs.Pattern.Groups

/-! What one step of the reader of alternatives does: it ends them, starts the next one, enters a
group, repeats the last part or adds a part. -/

namespace FleetSearch.Pattern

variable {flags : Flags} {chars rest : List Char} {names : List String} {fuel : Nat}
  {done : Option DeepRegex} {parts : Parts} {c : Char}

/-- The expression of the alternatives that are done and the parts of the last one. -/
def finished (done : Option DeepRegex) (parts : Parts) : DeepRegex :=
  let joined := DeepRegex.besides done parts.row
  if done.isSome then joined.nested else joined

/-- Whether a sign repeats the part in front of it. -/
def repeats (c : Char) : Bool :=
  c == '?' || c == '*' || c == '+' || c == '\x7b'

/-- How often a sign repeats the part in front of it, and what follows. -/
def times? (flags : Flags) (c : Char) (rest : List Char) : Option (Nat × Option Nat × List Char) :=
  if c = '?' then some (0, some 1, skipLazy rest)
  else if c = '*' then some (0, none, skipLazy rest)
  else if c = '+' then some (1, none, skipLazy rest)
  else (count? flags rest).map fun (least, most, rest) =>
    (least, most, skipLazy (Cursor.skipped flags rest))

/-- A sign ends the alternatives or an alternative, enters a group, repeats a part or starts one. -/
theorem kinds (c : Char) : c = ')' ∨ c = '|' ∨ c = '(' ∨ repeats c = true ∨
    (c ≠ ')' ∧ c ≠ '|' ∧ c ≠ '(' ∧ repeats c = false) := by
  by_cases closing : c = ')'
  · exact .inl closing
  by_cases bar : c = '|'
  · exact .inr (.inl bar)
  by_cases group : c = '('
  · exact .inr (.inr (.inl group))
  cases again : repeats c with
  | true => exact .inr (.inr (.inr (.inl rfl)))
  | false => exact .inr (.inr (.inr (.inr ⟨closing, bar, group, rfl⟩)))

theorem times?_suffix {least : Nat} {most : Option Nat} {behind : List Char}
    (read : times? flags c rest = some (least, most, behind)) : behind <:+ rest := by
  unfold times? at read
  split at read
  · cases read
    exact skipLazy_suffix rest
  · split at read
    · cases read
      exact skipLazy_suffix rest
    · split at read
      · cases read
        exact skipLazy_suffix rest
      · obtain ⟨⟨low, high, after⟩, count, same⟩ := Option.map_eq_some_iff.mp read
        cases same
        exact (skipLazy_suffix _).trans ((Cursor.skipped_suffix flags after).trans
          (count?_suffix count))

theorem times?_append (flags : Flags) (c : Char) (chars : List Char) :
    Alike beside (times? flags c chars) (times? flags c (chars ++ anything)) := by
  have lazy := skipLazy_longer (.append chars)
  unfold times?
  split
  · exact .some (0, some 1) lazy
  · split
    · exact .some (0, none) lazy
    · split
      · exact .some (1, none) lazy
      · rcases (count?_longer flags (.append chars)).cases with
          ⟨alone, ahead⟩ | ⟨value, rest, behind, alone, ahead, extended⟩
        · rw [alone, ahead]
          exact .none
        · rw [alone, ahead]
          exact .some value (skipLazy_longer (Cursor.skipped_longer flags extended))

variable [Dialect]

/-- The part that starts with a character which is neither a group nor a repetition. -/
def part? (flags : Flags) (c : Char) (rest : List Char) : Option (DeepRegex × List Char) :=
  if c = '[' then (bracketClass? flags rest).map fun (found, rest) =>
    ({ regex := .one found.set, depth := found.depth }, rest)
  else if c = '\\' then (escape? flags rest).map fun (atom, rest) =>
    ({ regex := atomRegex flags atom }, rest)
  else if c = '.' then (dotSet? flags).map fun set => ({ regex := .one set }, rest)
  else if c = '^' then
    let condition := if flags.multiLine then .lineStart flags.crlf else .textStart
    some ({ regex := .anchor condition }, rest)
  else if c = '$' then
    let condition := if flags.multiLine then .lineEnd flags.crlf else .textEnd
    some ({ regex := .anchor condition }, rest)
  else some ({ regex := characterRegex flags c }, rest)

/-- What follows a character, with the parts in front of it. -/
def proceed? (done : Option DeepRegex) (parts : Parts) (fuel : Nat) (flags : Flags)
    (names : List String) (c : Char) (rest : List Char) : Option (DeepRegex × Cursor) :=
  if c = ')' then some (finished done parts, { rest := c :: rest, flags, names })
  else if c = '|' then
    alternatives? (some (DeepRegex.besides done parts.row)) [] fuel { rest, flags, names }
  else if c = '(' then group? done parts fuel { rest, flags, names }
  else if repeats c then
    (times? flags c rest).bind fun (least, most, rest) =>
      (parts.repeated? least most).bind fun parts =>
        alternatives? done parts fuel { rest, flags, names }
  else (part? flags c rest).bind fun (part, rest) =>
    alternatives? done (some part :: parts) fuel { rest, flags, names }

theorem alternatives?_nil (start : Cursor.skipped flags chars = []) :
    alternatives? done parts (fuel + 1) { rest := chars, flags, names } =
      some (finished done parts, { rest := [], flags, names }) := by
  unfold alternatives?
  rw [Cursor.skipSpace_eq]
  dsimp only
  rw [start]
  rfl

theorem alternatives?_cons (start : Cursor.skipped flags chars = c :: rest) :
    alternatives? done parts (fuel + 1) { rest := chars, flags, names } =
      proceed? done parts fuel flags names c rest := by
  unfold alternatives?
  rw [Cursor.skipSpace_eq]
  dsimp only
  rw [start]
  split
  all_goals
    rename_i same
    cases same
  case h_5.refl | h_9.refl | h_10.refl | h_11.refl =>
    show _ = (Option.map _ _).bind _
    rw [Option.bind_map]
    rfl
  case h_14.refl =>
    rename_i closing bar group bracket question star plus brace slash dot caret dollar
    have single : repeats c = false := by
      have others : ((c ≠ '?' ∧ c ≠ '*') ∧ c ≠ '+') ∧ c ≠ '\x7b' :=
        ⟨⟨⟨question, star⟩, plus⟩, brace⟩
      simpa [repeats] using others
    have part : part? flags c rest = some ({ regex := characterRegex flags c }, rest) := by
      rw [part?, if_neg bracket, if_neg slash, if_neg dot, if_neg caret, if_neg dollar]
    unfold proceed?
    rw [if_neg closing, if_neg bar, if_neg group, single, part]
    rfl
  all_goals rfl

/-- A group that has been read up to its parenthesis, as one more part. -/
def closed? (done : Option DeepRegex) (parts : Parts) (fuel : Nat) (flags : Flags)
    (found : DeepRegex × Cursor) : Option (DeepRegex × Cursor) :=
  match found.2.rest with
  | ')' :: rest =>
    alternatives? done (some found.1.nested :: parts) fuel { found.2 with rest, flags }
  | _ => none

theorem group?_refused (opening : opening? { rest := chars, flags, names } = none) :
    group? done parts (fuel + 1) { rest := chars, flags, names } = none := by
  unfold group?
  rw [opening]
  rfl

theorem group?_flags {set : Flags} {inner : Cursor}
    (opening : opening? { rest := chars, flags, names } = some (.flags set, inner)) :
    group? done parts (fuel + 1) { rest := chars, flags, names } =
      alternatives? done (none :: parts) fuel { inner with flags := set } := by
  unfold group?
  rw [opening]
  rfl

theorem group?_group {set : Flags} {name : Option String} {inner : Cursor}
    (opening : opening? { rest := chars, flags, names } = some (.group set name, inner)) :
    group? done parts (fuel + 1) { rest := chars, flags, names } =
      (alternatives? none [] fuel { inner with flags := set }).bind
        (closed? done parts fuel flags) := by
  unfold group?
  rw [opening]
  rfl

theorem proceed?_repeats (again : repeats c = true) :
    proceed? done parts fuel flags names c rest =
      (times? flags c rest).bind fun (least, most, rest) =>
        (parts.repeated? least most).bind fun parts =>
          alternatives? done parts fuel { rest, flags, names } := by
  have signs : c ≠ ')' ∧ c ≠ '|' ∧ c ≠ '(' := by
    refine ⟨?_, ?_, ?_⟩ <;> rintro rfl <;> exact absurd again (by decide)
  unfold proceed?
  rw [if_neg signs.1, if_neg signs.2.1, if_neg signs.2.2, if_pos again]

theorem proceed?_part (plain : c ≠ ')' ∧ c ≠ '|' ∧ c ≠ '(' ∧ repeats c = false) :
    proceed? done parts fuel flags names c rest =
      (part? flags c rest).bind fun (part, rest) =>
        alternatives? done (some part :: parts) fuel { rest, flags, names } := by
  obtain ⟨closing, bar, group, single⟩ := plain
  unfold proceed?
  rw [if_neg closing, if_neg bar, if_neg group, if_neg (by simp [single])]

theorem part?_suffix {part : DeepRegex} {behind : List Char}
    (read : part? flags c rest = some (part, behind)) : behind <:+ rest := by
  unfold part? at read
  split at read
  · obtain ⟨⟨found, after⟩, bracket, same⟩ := Option.map_eq_some_iff.mp read
    cases same
    exact bracketClass?_suffix bracket
  · split at read
    · obtain ⟨⟨atom, after⟩, escape, same⟩ := Option.map_eq_some_iff.mp read
      cases same
      exact escape?_suffix escape
    · split at read
      · obtain ⟨set, _, same⟩ := Option.map_eq_some_iff.mp read
        cases same
        exact List.suffix_refl _
      · split at read
        · cases read
          exact List.suffix_refl _
        · split at read
          · cases read
            exact List.suffix_refl _
          · cases read
            exact List.suffix_refl _

/-- Whether alternatives that are read with some fuel leave an end of the text over. -/
def AlternativesLeave (fuel : Nat) : Prop :=
  ∀ ⦃done : Option DeepRegex⦄ ⦃parts : Parts⦄ ⦃cursor behind : Cursor⦄ ⦃found : DeepRegex⦄,
    alternatives? done parts fuel cursor = some (found, behind) → behind.rest <:+ cursor.rest

/-- Whether groups that are read with some fuel leave an end of the text over. -/
def GroupsLeave (fuel : Nat) : Prop :=
  ∀ ⦃done : Option DeepRegex⦄ ⦃parts : Parts⦄ ⦃cursor behind : Cursor⦄ ⦃found : DeepRegex⦄,
    group? done parts fuel cursor = some (found, behind) → behind.rest <:+ cursor.rest

theorem proceed?_suffix {found : DeepRegex} {behind : Cursor}
    (alternatives : AlternativesLeave fuel) (groups : GroupsLeave fuel)
    (read : proceed? done parts fuel flags names c rest = some (found, behind)) :
    behind.rest <:+ c :: rest := by
  rcases kinds c with rfl | rfl | rfl | again | plain
  · cases read
    exact List.suffix_refl _
  · exact suffix_of_cons (alternatives read)
  · exact suffix_of_cons (groups read)
  · rw [proceed?_repeats again] at read
    obtain ⟨⟨least, most, left⟩, times, read⟩ := Option.bind_eq_some_iff.mp read
    obtain ⟨parts, _, read⟩ := Option.bind_eq_some_iff.mp read
    exact suffix_of_cons ((alternatives read).trans (times?_suffix times))
  · rw [proceed?_part plain] at read
    obtain ⟨⟨part, left⟩, single, read⟩ := Option.bind_eq_some_iff.mp read
    exact suffix_of_cons ((alternatives read).trans (part?_suffix single))

theorem alternatives_leave (alternatives : AlternativesLeave fuel) (groups : GroupsLeave fuel) :
    AlternativesLeave (fuel + 1) := by
  rintro done parts ⟨chars, flags, names⟩ behind found read
  have skips := Cursor.skipped_suffix flags chars
  cases start : Cursor.skipped flags chars with
  | nil =>
    rw [alternatives?_nil start] at read
    cases read
    exact List.nil_suffix
  | cons c rest =>
    rw [alternatives?_cons start] at read
    exact (proceed?_suffix alternatives groups read).trans (start ▸ skips)

theorem groups_leave (alternatives : AlternativesLeave fuel) : GroupsLeave (fuel + 1) := by
  rintro done parts ⟨chars, flags, names⟩ behind found read
  cases opening : opening? { rest := chars, flags, names } with
  | none =>
    rw [group?_refused opening] at read
    cases read
  | some opened =>
    obtain ⟨start, inner⟩ := opened
    have opens := opening?_suffix opening
    cases start with
    | flags set =>
      rw [group?_flags opening] at read
      exact (alternatives read).trans opens
    | group set name =>
      rw [group?_group opening] at read
      obtain ⟨⟨body, after⟩, inside, read⟩ := Option.bind_eq_some_iff.mp read
      have ends := (alternatives inside).trans opens
      unfold closed? at read
      split at read
      · rename_i rest same
        have closing : rest <:+ after.rest := same ▸ List.suffix_cons _ _
        exact (alternatives read).trans (closing.trans ends)
      · cases read

/-- What follows the alternatives of a group, or a group, is an end of what there was. -/
theorem leave (fuel : Nat) : AlternativesLeave fuel ∧ GroupsLeave fuel := by
  induction fuel with
  | zero =>
    constructor
    all_goals
      intro done parts cursor behind found read
      cases read
  | succ fuel ih => exact ⟨alternatives_leave ih.1 ih.2, groups_leave ih.1⟩

theorem alternatives?_suffix {cursor behind : Cursor} {found : DeepRegex}
    (read : alternatives? done parts fuel cursor = some (found, behind)) :
    behind.rest <:+ cursor.rest :=
  (leave fuel).1 read

/-- A part is read in front of the signs as at the end. Only a backslash that ends the pattern takes
the dot for itself, and only a boundary that lacks its end leaves a brace. -/
theorem part?_append (flags : Flags) (c : Char) (chars : List Char) :
    Alike Prod.mk (part? flags c chars) (part? flags c (chars ++ anything)) ∨
      part? flags c chars = none ∧ c = '\\' ∧ ∀ part rest,
        part? flags c (chars ++ anything) = some (part, rest) →
          ∃ atom, part = { regex := atomRegex flags atom } ∧ Stray flags chars atom rest := by
  unfold part?
  split
  · exact .inl ((bracketClass?_append flags chars).map fun _ _ => rfl)
  · split
    · rename_i slash
      rcases escape?_append flags chars with alike | ⟨refused, stray⟩
      · exact .inl (alike.map fun _ _ => rfl)
      · refine .inr ⟨by rw [refused]; rfl, slash, fun part rest read => ?_⟩
        obtain ⟨⟨atom, left⟩, escape, same⟩ := Option.map_eq_some_iff.mp read
        cases same
        exact ⟨atom, rfl, stray atom rest escape⟩
    · refine .inl ?_
      split
      · cases dotSet? flags with
        | none => exact .none
        | some set => exact .some _ (.append chars)
      · split
        · exact .some _ (.append chars)
        · split
          · exact .some _ (.append chars)
          · exact .some _ (.append chars)

end FleetSearch.Pattern
