import FleetSearch.Proofs.Pattern.Steps

/-! Patterns with the signs for any characters behind them. What these do depends on where the
pattern leaves off: in a comment, in a mode without Unicode, or with a backslash. -/

namespace FleetSearch.Pattern

variable {flags : Flags} {chars longer : List Char} {names : List String} {fuel : Nat}
  {done : Option DeepRegex} {parts : Parts}

/-- Any number of the characters of a set. -/
def anyNumber (set : Charset) : DeepRegex :=
  ({ regex := .one set } : DeepRegex).repeated 0 none

/-- What a reading comes to with the signs behind the text, for each thing that it comes to without
them. -/
inductive Tailed (chars : List Char) :
    Option (DeepRegex × Cursor) → Option (DeepRegex × Cursor) → Prop
  | refused : Tailed chars none none
  /-- A closing parenthesis comes before the signs. -/
  | closed (found : DeepRegex) (rest : List Char) (flags : Flags) (names : List String) :
      Tailed chars (some (found, { rest := ')' :: rest, flags, names }))
        (some (found, { rest := ')' :: (rest ++ anything), flags, names }))
  /-- The signs are part of a comment. -/
  | comment (found : DeepRegex) (flags : Flags) (names : List String) :
      Tailed chars (some (found, { rest := [], flags, names }))
        (some (found, { rest := [], flags, names }))
  | stretched (done : Option DeepRegex) (parts : Parts) (flags : Flags) (names : List String)
      (set : Charset) (dot : dotSet? flags = some set) :
      Tailed chars (some (finished done parts, { rest := [], flags, names }))
        (some (finished done (some (anyNumber set) :: parts), { rest := [], flags, names }))
  /-- Without Unicode there is no dot. -/
  | bytes (found : DeepRegex) (flags : Flags) (names : List String) (dot : dotSet? flags = none) :
      Tailed chars (some (found, { rest := [], flags, names })) none
  /-- A backslash takes the dot for itself. -/
  | slash (found : DeepRegex) (flags : Flags) (names : List String) (last : ['\\'] <:+ chars) :
      Tailed chars none (some (found, { rest := [], flags, names }))

theorem Tailed.of_suffix {alone ahead : Option (DeepRegex × Cursor)} {rest : List Char}
    (tailed : Tailed rest alone ahead) (shorter : rest <:+ chars) : Tailed chars alone ahead := by
  cases tailed with
  | refused => exact .refused
  | closed found rest flags names => exact .closed found rest flags names
  | comment found flags names => exact .comment found flags names
  | stretched done parts flags names set dot => exact .stretched done parts flags names set dot
  | bytes found flags names dot => exact .bytes found flags names dot
  | slash found flags names last => exact .slash found flags names (last.trans shorter)

variable [Dialect]

theorem alternatives?_star (part : DeepRegex) :
    alternatives? done (some part :: parts) (fuel + 2) { rest := ['*'], flags, names } =
      some (finished done (some (part.repeated 0 none) :: parts),
        { rest := [], flags, names }) := by
  rw [alternatives?_cons (Cursor.skipped_of_solid (by decide) (by decide)),
    proceed?_repeats (by decide)]
  exact alternatives?_nil (Cursor.skipped_nil flags)

theorem alternatives?_anything {set : Charset} (dot : dotSet? flags = some set)
    (start : Cursor.skipped flags chars = anything) :
    alternatives? done parts (fuel + 3) { rest := chars, flags, names } =
      some (finished done (some (anyNumber set) :: parts), { rest := [], flags, names }) := by
  have part : part? flags '.' ['*'] = some ({ regex := .one set }, ['*']) := by
    rw [part?, if_neg (by decide), if_neg (by decide), if_pos rfl, dot]
    rfl
  rw [alternatives?_cons start, proceed?_part (by decide), part]
  exact alternatives?_star _

theorem alternatives?_anything_bytes (dot : dotSet? flags = none)
    (start : Cursor.skipped flags chars = anything) :
    alternatives? done parts (fuel + 1) { rest := chars, flags, names } = none := by
  have part : part? flags '.' ['*'] = none := by
    rw [part?, if_neg (by decide), if_neg (by decide), if_pos rfl, dot]
    rfl
  rw [alternatives?_cons start, proceed?_part (by decide), part]
  rfl

/-- Behind a part that is there only because of the signs, either the text ends, or it cannot be
read on. -/
theorem alternatives?_stray {atom : Atom} {part : DeepRegex} {rest : List Char}
    (stray : Stray flags chars atom rest) :
    alternatives? done (some part :: parts) (fuel + 2) { rest, flags, names } = none ∨
      chars = [] ∧ ∃ found,
        alternatives? done (some part :: parts) (fuel + 2) { rest, flags, names } =
          some (found, { rest := [], flags, names }) := by
  cases stray with
  | dot => exact .inr ⟨rfl, _, alternatives?_star part⟩
  | @brace chars inner condition behind =>
    have digits : countNumber? flags anything = none := by
      rcases (countNumber?_longer flags (.append [])).cases with
        ⟨_, ahead⟩ | ⟨value, rest, behind, alone, _⟩
      · exact ahead
      · exact absurd alone (Option.some_ne_none _).symm
    have count : count? flags inner = none := by
      rw [count?, behind, digits]
      rfl
    refine .inl ?_
    rw [alternatives?_cons (Cursor.skipped_of_solid (by decide) (by decide)),
      proceed?_repeats (by decide), times?, if_neg (by decide), if_neg (by decide),
      if_neg (by decide), count]
    rfl

/-- Whether the signs behind a text do what is said of them when alternatives are read with some
fuel. That covers two steps for each character, and two more for the signs in the longer text. -/
def AlternativesTailed (fuel : Nat) : Prop :=
  ∀ ⦃other : Nat⦄ ⦃done : Option DeepRegex⦄ ⦃parts : Parts⦄ ⦃chars longer : List Char⦄
    ⦃flags : Flags⦄ ⦃names : List String⦄, Longer chars longer → 2 * chars.length + 1 ≤ fuel →
    fuel + 2 ≤ other →
      Tailed chars (alternatives? done parts fuel { rest := chars, flags, names })
        (alternatives? done parts other { rest := longer, flags, names })

/-- The same when a group is read, one step further. -/
def GroupsTailed (fuel : Nat) : Prop :=
  ∀ ⦃other : Nat⦄ ⦃done : Option DeepRegex⦄ ⦃parts : Parts⦄ ⦃chars longer : List Char⦄
    ⦃flags : Flags⦄ ⦃names : List String⦄, Longer chars longer → 2 * chars.length + 2 ≤ fuel →
    fuel + 2 ≤ other →
      Tailed chars (group? done parts fuel { rest := chars, flags, names })
        (group? done parts other { rest := longer, flags, names })

section

variable {rest : List Char} {c : Char} {other : Nat}

theorem repetition_tailed (alternatives : AlternativesTailed fuel) (again : repeats c = true)
    (enough : 2 * rest.length + 1 ≤ fuel) (more : fuel + 2 ≤ other) :
    Tailed rest (proceed? done parts fuel flags names c rest)
      (proceed? done parts other flags names c (rest ++ anything)) := by
  rw [proceed?_repeats again, proceed?_repeats again]
  rcases (times?_append flags c rest).cases with
    ⟨refused, same⟩ | ⟨⟨least, most⟩, left, behind, read, same, extended⟩
  · rw [refused, same]
    exact .refused
  · rw [read, same]
    have further := times?_suffix read
    have fewer := further.length_le
    dsimp only [Option.bind_some, beside]
    cases parts.repeated? least most with
    | none => exact .refused
    | some parts => exact (alternatives extended (by omega) more).of_suffix further

theorem part_tailed (alternatives : AlternativesTailed fuel)
    (plain : c ≠ ')' ∧ c ≠ '|' ∧ c ≠ '(' ∧ repeats c = false)
    (enough : 2 * rest.length + 1 ≤ fuel) (more : fuel + 2 ≤ other) :
    Tailed (c :: rest) (proceed? done parts fuel flags names c rest)
      (proceed? done parts other flags names c (rest ++ anything)) := by
  obtain ⟨other, rfl⟩ : ∃ fuel, other = fuel + 2 := ⟨other - 2, by omega⟩
  rw [proceed?_part plain, proceed?_part plain]
  rcases part?_append flags c rest with alike | ⟨refused, rfl, stray⟩
  · rcases alike.cases with ⟨refused, same⟩ | ⟨part, left, behind, read, same, extended⟩
    · rw [refused, same]
      exact .refused
    · rw [read, same]
      have further := part?_suffix read
      have fewer := further.length_le
      exact (alternatives extended (by omega) more).of_suffix (suffix_of_cons further)
  · rw [refused]
    cases read : part? flags '\\' (rest ++ anything) with
    | none => exact .refused
    | some found =>
      obtain ⟨part, left⟩ := found
      obtain ⟨atom, _, stray⟩ := stray part left read
      rw [Option.bind_some]
      dsimp only
      rcases alternatives?_stray stray with stuck | ⟨rfl, found, read⟩
      · rw [stuck]
        exact .refused
      · rw [read]
        exact .slash found flags names (List.suffix_refl _)

end

theorem alternatives_tailed (alternatives : AlternativesTailed fuel) (groups : GroupsTailed fuel) :
    AlternativesTailed (fuel + 1) := by
  intro other done parts chars longer flags names extended enough more
  obtain ⟨other, rfl⟩ : ∃ fuel, other = fuel + 3 := ⟨other - 3, by omega⟩
  have suffix := Cursor.skipped_suffix flags chars
  have shorter := suffix.length_le
  rcases (Cursor.skipped_longer flags extended).cases with
    ⟨alone, ahead | ahead⟩ | ⟨c, rest, alone, ahead⟩
  · rw [alternatives?_nil alone]
    cases dot : dotSet? flags with
    | none =>
      rw [alternatives?_anything_bytes dot ahead]
      exact .bytes _ flags names dot
    | some set =>
      rw [alternatives?_anything dot ahead]
      exact .stretched done parts flags names set dot
  · rw [alternatives?_nil alone, alternatives?_nil ahead]
    exact .comment _ flags names
  · rw [alone] at suffix shorter
    rw [List.length_cons] at shorter
    rw [alternatives?_cons alone, alternatives?_cons ahead]
    have inner : rest <:+ chars := (List.suffix_cons c rest).trans suffix
    rcases kinds c with rfl | rfl | rfl | again | plain
    · exact .closed (finished done parts) rest flags names
    · exact (alternatives (.append rest) (by omega) (by omega)).of_suffix inner
    · exact (groups (.append rest) (by omega) (by omega)).of_suffix inner
    · exact (repetition_tailed alternatives again (by omega) (by omega)).of_suffix inner
    · exact (part_tailed alternatives plain (by omega) (by omega)).of_suffix suffix

theorem groups_tailed (alternatives : AlternativesTailed fuel) : GroupsTailed (fuel + 1) := by
  intro other done parts chars longer flags names extended enough more
  obtain ⟨other, rfl⟩ : ∃ fuel, other = fuel + 1 := ⟨other - 1, by omega⟩
  rcases (opening?_longer flags names extended).cases with
    ⟨refused, same⟩ | ⟨⟨start, found, known⟩, rest, behind, read, same, extended⟩
  · rw [group?_refused refused, group?_refused same]
    exact .refused
  · have inner : rest <:+ chars := opening?_suffix read
    have fewer := inner.length_le
    cases start with
    | flags set =>
      rw [group?_flags read, group?_flags same]
      exact (alternatives extended (by omega) (by omega)).of_suffix inner
    | group set name =>
      have body := @alternatives other none [] rest behind set known extended (by omega) (by omega)
      rw [group?_group read, group?_group same]
      generalize inside : alternatives? none [] fuel { rest, flags := set, names := known } =
        alone at body
      generalize alternatives? none [] other { rest := behind, flags := set, names := known } =
        ahead at body
      -- Only a group that is closed goes on; its parenthesis keeps the signs out.
      cases body with
      | closed found left _ names =>
        have further : ')' :: left <:+ rest := alternatives?_suffix inside
        have closing := further.length_le
        rw [List.length_cons] at closing
        exact (alternatives (.append left) (by omega) (by omega)).of_suffix
          (((List.suffix_cons _ _).trans further).trans inner)
      | refused => exact .refused
      | comment => exact .refused
      | stretched => exact .refused
      | bytes => exact .refused
      | slash => exact .refused

theorem tailed (fuel : Nat) : AlternativesTailed fuel ∧ GroupsTailed fuel := by
  induction fuel with
  | zero =>
    constructor
    all_goals
      intro other done parts chars longer flags names _ enough
      omega
  | succ fuel ih => exact ⟨alternatives_tailed ih.1 ih.2, groups_tailed ih.1⟩

end FleetSearch.Pattern
