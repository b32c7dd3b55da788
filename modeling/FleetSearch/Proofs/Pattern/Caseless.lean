import FleetSearch.Proofs.Pattern.Casing

/-! Patterns are accepted without regard to case exactly if they are with it, with expressions that
are as deep. -/

namespace FleetSearch.Pattern

variable {flags : Flags} {anyCase : Bool} {chars rest : List Char} {names : List String}

theorem setFlag?_cased (value : Bool) (flags : Flags) (anyCase : Bool) (c : Char) :
    ∃ other, setFlag? value (flags.cased anyCase) c =
      (setFlag? value flags c).map (·.cased other) := by
  unfold setFlag?
  split
  · exact ⟨value, rfl⟩
  all_goals exact ⟨anyCase, rfl⟩

theorem flagLetters?_cased (flags : Flags) (anyCase : Bool) (seen : List Char)
    (value afterHyphen : Bool) (chars : List Char) :
    ∃ other, flagLetters? (flags.cased anyCase) seen value afterHyphen chars =
      (flagLetters? flags seen value afterHyphen chars).map
        fun (flags, any, rest) => (flags.cased other, any, rest) := by
  induction chars generalizing flags anyCase seen value afterHyphen with
  | nil => exact ⟨anyCase, rfl⟩
  | cons c rest ih =>
    rw [flagLetters?, flagLetters?]
    split
    · split
      · exact ⟨anyCase, rfl⟩
      · exact ⟨anyCase, rfl⟩
    · split
      · split
        · exact ih _ _ _ _ _
        · exact ⟨anyCase, rfl⟩
      · split
        · exact ⟨anyCase, rfl⟩
        · obtain ⟨other, same⟩ := setFlag?_cased value flags anyCase c
          rw [same]
          cases setFlag? value flags c with
          | none => exact ⟨anyCase, rfl⟩
          | some set => exact ih _ _ _ _ _

/-- An opening with another choice of whether case counts inside. -/
def Opening.cased (anyCase : Bool) : Opening → Opening
  | .flags set => .flags (set.cased anyCase)
  | .group set name => .group (set.cased anyCase) name

/-- A start of a group with other choices of whether case counts inside and around it. -/
def openedAs (inside around : Bool) (found : Opening × Cursor) : Opening × Cursor :=
  (found.1.cased inside, { found.2 with flags := found.2.flags.cased around })

theorem namedOpening?_cased (flags : Flags) (anyCase : Bool) (names : List String)
    (chars : List Char) : namedOpening? (flags.cased anyCase) names chars =
      (namedOpening? flags names chars).map (openedAs anyCase anyCase) := by
  unfold namedOpening?
  cases groupName? chars with
  | none => rfl
  | some found =>
    rw [Option.bind_some, Option.bind_some]
    dsimp only
    split <;> rfl

theorem flagOpening?_cased (flags : Flags) (anyCase : Bool) (names : List String)
    (chars : List Char) : ∃ inside, flagOpening? (flags.cased anyCase) names chars =
      (flagOpening? flags names chars).map (openedAs inside anyCase) := by
  obtain ⟨inside, same⟩ := flagLetters?_cased flags anyCase [] true false chars
  refine ⟨inside, ?_⟩
  unfold flagOpening?
  rw [same]
  cases flagLetters? flags [] true false chars with
  | none => rfl
  | some found =>
    rw [Option.map_some, Option.bind_some, Option.bind_some]
    dsimp only
    split
    · rfl
    · split <;> rfl
    · rfl

theorem opening?_cased (flags : Flags) (anyCase : Bool) (names : List String)
    (chars : List Char) : ∃ inside,
      opening? { rest := chars, flags := flags.cased anyCase, names } =
        (opening? { rest := chars, flags, names }).map (openedAs inside anyCase) := by
  rw [opening?_eq, opening?_eq]
  show ∃ inside, bareOpening? (flags.cased anyCase) names (Cursor.skipped flags chars) = _
  unfold bareOpening?
  split
  · exact ⟨anyCase, rfl⟩
  · split
    · unfold markedOpening?
      split
      · exact ⟨anyCase, namedOpening?_cased flags anyCase names _⟩
      · exact ⟨anyCase, namedOpening?_cased flags anyCase names _⟩
      · exact flagOpening?_cased flags anyCase names _
    · exact ⟨anyCase, rfl⟩

/-- Whether two expressions are as deep. -/
def DeepRegex.Resembles (first second : DeepRegex) : Prop :=
  first.depth = second.depth

theorem DeepRegex.Resembles.refl (found : DeepRegex) : found.Resembles found :=
  rfl

theorem DeepRegex.Resembles.flat (first second : Regex) :
    DeepRegex.Resembles { regex := first } { regex := second } :=
  rfl

/-- How deep each part is. -/
def Parts.depths (parts : Parts) : List (Option Nat) :=
  parts.map (Option.map DeepRegex.depth)

theorem Parts.deepest_of_depths {first second : Parts} (same : first.depths = second.depths) :
    first.deepest = second.deepest := by
  have folded := congrArg (List.foldl (fun depth (part : Option Nat) => max depth (part.getD 0)) 0)
    same
  unfold depths at folded
  rwa [List.foldl_map, List.foldl_map] at folded

theorem Parts.depth_row {first second : Parts} (same : first.depths = second.depths) :
    first.row.depth = second.row.depth := by
  have long : first.length = second.length := by
    simpa [depths] using congrArg List.length same
  show first.depth = second.depth
  rw [depth_eq, depth_eq, long, deepest_of_depths same]

theorem DeepRegex.depth_besides {done other : Option DeepRegex} {first second : DeepRegex}
    (before : done.map depth = other.map depth) (last : first.depth = second.depth) :
    (besides done first).depth = (besides other second).depth := by
  cases done with
  | none =>
    cases other with
    | none => exact last
    | some => cases before
  | some left =>
    cases other with
    | none => cases before
    | some right => exact congrArg₂ max (Option.some.inj before) last

theorem depth_finished {done other : Option DeepRegex} {parts more : Parts}
    (before : done.map DeepRegex.depth = other.map DeepRegex.depth)
    (same : parts.depths = more.depths) :
    (finished done parts).depth = (finished other more).depth := by
  have joined := DeepRegex.depth_besides before (Parts.depth_row same)
  have some_ : done.isSome = other.isSome := by
    simpa using congrArg Option.isSome before
  unfold finished
  dsimp only
  rw [some_]
  split
  · exact congrArg (· + 1) joined
  · exact joined

theorem Parts.repeated?_depths {parts more : Parts} (least : Nat) (most : Option Nat)
    (same : parts.depths = more.depths) :
    (parts.repeated? least most).map depths = (more.repeated? least most).map depths := by
  cases parts with
  | nil =>
    cases more with
    | nil => rfl
    | cons => cases same
  | cons last before =>
    cases more with
    | nil => cases same
    | cons other more =>
      obtain ⟨head, tail⟩ := List.cons.inj same
      cases last with
      | none =>
        cases other with
        | none => rfl
        | some => cases head
      | some last =>
        cases other with
        | none => cases head
        | some other =>
          have depth : last.depth + 1 = other.depth + 1 :=
            congrArg (· + 1) (Option.some.inj head)
          exact congrArg some (congrArg₂ List.cons (congrArg some depth) tail)

/-- Whether two readings leave the same text, under flags that differ in whether case counts, and
give expressions that are as deep, if any. -/
inductive Kindred : Option (DeepRegex × Cursor) → Option (DeepRegex × Cursor) → Prop
  | refused : Kindred none none
  | read {first second : DeepRegex} (same : first.Resembles second) (rest : List Char)
      (flags : Flags) (anyCase : Bool) (names : List String) :
      Kindred (some (first, { rest, flags, names }))
        (some (second, { rest, flags := flags.cased anyCase, names }))

variable [Dialect]

theorem part?_cased (flags : Flags) (anyCase : Bool) (c : Char) (rest : List Char) :
    Parallel DeepRegex.Resembles (part? flags c rest) (part? (flags.cased anyCase) c rest) := by
  have equal := Parallel.refl DeepRegex.Resembles.refl
  unfold part?
  split
  · refine (bracketClass?_cased flags anyCase rest).map fun _ _ behind depth => .some ?_ behind
    exact depth
  · split
    · exact (escape?_cased flags anyCase rest).map fun _ _ behind _ => .some (.flat _ _) behind
    · split
      · exact equal _
      · split
        · exact equal _
        · split
          · exact equal _
          · exact .some (.flat _ _) rest

/-- Whether alternatives that are read with some fuel are as deep whether case counts or not. -/
def AlternativesCased (fuel : Nat) : Prop :=
  ∀ ⦃done other : Option DeepRegex⦄ ⦃parts more : Parts⦄ ⦃chars : List Char⦄ ⦃flags : Flags⦄
    ⦃anyCase : Bool⦄ ⦃names : List String⦄,
    done.map DeepRegex.depth = other.map DeepRegex.depth → parts.depths = more.depths →
      Kindred (alternatives? done parts fuel { rest := chars, flags, names })
        (alternatives? other more fuel { rest := chars, flags := flags.cased anyCase, names })

/-- Whether a group that is read with some fuel is as deep whether case counts or not. -/
def GroupsCased (fuel : Nat) : Prop :=
  ∀ ⦃done other : Option DeepRegex⦄ ⦃parts more : Parts⦄ ⦃chars : List Char⦄ ⦃flags : Flags⦄
    ⦃anyCase : Bool⦄ ⦃names : List String⦄,
    done.map DeepRegex.depth = other.map DeepRegex.depth → parts.depths = more.depths →
      Kindred (group? done parts fuel { rest := chars, flags, names })
        (group? other more fuel { rest := chars, flags := flags.cased anyCase, names })

section

variable {fuel : Nat} {done other : Option DeepRegex} {parts more : Parts} {c : Char}

theorem repetition_cased (alternatives : AlternativesCased fuel)
    (before : done.map DeepRegex.depth = other.map DeepRegex.depth)
    (same : parts.depths = more.depths) (again : repeats c = true) :
    Kindred (proceed? done parts fuel flags names c rest)
      (proceed? other more fuel (flags.cased anyCase) names c rest) := by
  rw [proceed?_repeats again, proceed?_repeats again]
  show Kindred _ ((times? flags c rest).bind _)
  cases times? flags c rest with
  | none => exact .refused
  | some found =>
    obtain ⟨least, most, behind⟩ := found
    have repeated := Parts.repeated?_depths least most same
    rw [Option.bind_some, Option.bind_some]
    dsimp only
    generalize parts.repeated? least most = one at repeated
    generalize more.repeated? least most = next at repeated
    cases one with
    | none =>
      cases next with
      | none => exact .refused
      | some => cases repeated
    | some one =>
      cases next with
      | none => cases repeated
      | some next => exact alternatives before (Option.some.inj repeated)

theorem part_cased (alternatives : AlternativesCased fuel)
    (before : done.map DeepRegex.depth = other.map DeepRegex.depth)
    (same : parts.depths = more.depths)
    (plain : c ≠ ')' ∧ c ≠ '|' ∧ c ≠ '(' ∧ repeats c = false) :
    Kindred (proceed? done parts fuel flags names c rest)
      (proceed? other more fuel (flags.cased anyCase) names c rest) := by
  rw [proceed?_part plain, proceed?_part plain]
  rcases (part?_cased flags anyCase c rest).cases with
    ⟨alone, next⟩ | ⟨first, second, behind, alone, next, depth⟩
  · rw [alone, next]
    exact .refused
  · rw [alone, next]
    exact alternatives before (congrArg₂ List.cons (congrArg some depth) same)

end

theorem alternatives_cased {fuel : Nat} (alternatives : AlternativesCased fuel)
    (groups : GroupsCased fuel) : AlternativesCased (fuel + 1) := by
  intro done other parts more chars flags anyCase names before same
  cases start : Cursor.skipped flags chars with
  | nil =>
    have ahead : Cursor.skipped (flags.cased anyCase) chars = [] := start
    rw [alternatives?_nil start, alternatives?_nil ahead]
    exact .read (depth_finished before same) _ _ _ _
  | cons c rest =>
    have ahead : Cursor.skipped (flags.cased anyCase) chars = c :: rest := start
    rw [alternatives?_cons start, alternatives?_cons ahead]
    rcases kinds c with rfl | rfl | rfl | again | plain
    · exact .read (depth_finished before same) _ _ _ _
    · refine alternatives (congrArg some ?_) rfl
      exact DeepRegex.depth_besides before (Parts.depth_row same)
    · exact groups before same
    · exact repetition_cased alternatives before same again
    · exact part_cased alternatives before same plain

theorem groups_cased {fuel : Nat} (alternatives : AlternativesCased fuel) :
    GroupsCased (fuel + 1) := by
  intro done other parts more chars flags anyCase names before same
  obtain ⟨inside, opened⟩ := opening?_cased flags anyCase names chars
  cases opening : opening? { rest := chars, flags, names } with
  | none =>
    rw [opening] at opened
    rw [group?_refused opening, group?_refused opened]
    exact .refused
  | some found =>
    rw [opening] at opened
    obtain ⟨start, inner⟩ := found
    cases start with
    | flags set =>
      rw [group?_flags opening, group?_flags opened]
      exact alternatives before (congrArg (none :: ·) same)
    | group set name =>
      rw [group?_group opening, group?_group opened]
      have body := @alternatives none none [] [] inner.rest set inside inner.names rfl rfl
      show Kindred ((alternatives? none [] fuel ⟨inner.rest, set, inner.names⟩).bind _)
        ((alternatives? none [] fuel ⟨inner.rest, set.cased inside, inner.names⟩).bind _)
      generalize alternatives? none [] fuel ⟨inner.rest, set, inner.names⟩ = one at body
      generalize alternatives? none [] fuel ⟨inner.rest, set.cased inside, inner.names⟩ =
        next at body
      cases body with
      | refused => exact .refused
      | read depth rest _ _ _ =>
        rw [Option.bind_some, Option.bind_some]
        unfold closed?
        dsimp only
        split
        · refine alternatives before ?_
          exact congrArg₂ List.cons (congrArg some (congrArg (· + 1) depth)) same
        · exact .refused

theorem cased_readings (fuel : Nat) : AlternativesCased fuel ∧ GroupsCased fuel := by
  induction fuel with
  | zero =>
    constructor
    all_goals
      intro _ _ _ _ _ _ _ _ _ _
      exact .refused
  | succ fuel ih => exact ⟨alternatives_cased ih.1 ih.2, groups_cased ih.1⟩

/-- A pattern is spelled without regard to case if and only if it is with it, and then is as deep
and ends under the same flags apart from that. -/
theorem spelled?_cased (flags : Flags) (anyCase : Bool) (chars : List Char) :
    spelled? flags chars = none ∧ spelled? (flags.cased anyCase) chars = none ∨
      ∃ first second set other, spelled? flags chars = some (first, set) ∧
        spelled? (flags.cased anyCase) chars = some (second, set.cased other) ∧
        first.Resembles second := by
  have read := @(cased_readings (2 * chars.length + 2)).1 none none [] [] chars flags anyCase []
    rfl rfl
  unfold spelled?
  generalize alternatives? none [] (2 * chars.length + 2) ⟨chars, flags, []⟩ = one at read
  generalize alternatives? none [] (2 * chars.length + 2) ⟨chars, flags.cased anyCase, []⟩ =
    next at read
  cases read with
  | refused => exact .inl ⟨rfl, rfl⟩
  | @read first second same rest set other names =>
    cases rest with
    | nil => exact .inr ⟨first, second, set, other, rfl, rfl, same⟩
    | cons => exact .inl ⟨rfl, rfl⟩

/-- Whether a pattern is an expression does not depend on whether case counts. -/
theorem isSome_readAs?_cased (flags : Flags) (anyCase : Bool) (pattern : String) :
    (Regex.readAs? (flags.cased anyCase) pattern).isSome =
      (Regex.readAs? flags pattern).isSome := by
  unfold Regex.readAs?
  rcases spelled?_cased flags anyCase pattern.toList with
    ⟨refused, same⟩ | ⟨first, second, set, other, read, same, depth⟩
  · rw [refused, same]
  · rw [read, same, Option.bind_some, Option.bind_some]
    dsimp only
    rw [show first.depth = second.depth from depth]
    split <;> rfl

end FleetSearch.Pattern
