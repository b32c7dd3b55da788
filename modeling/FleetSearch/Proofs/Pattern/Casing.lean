import FleetSearch.Proofs.Pattern.Spliced

/-! Whether case counts changes which characters the sets of a pattern hold, but neither what is
accepted nor how deep that is. -/

namespace FleetSearch.Pattern

variable {flags : Flags} {anyCase : Bool} {chars rest : List Char}

/-- Flags with another choice of whether case counts. -/
def Flags.cased (flags : Flags) (anyCase : Bool) : Flags :=
  { flags with anyCase }

/-- Whether two readings leave the same text and give values in some relation, if any. -/
inductive Parallel {α : Type} (resembles : α → α → Prop) :
    Option (α × List Char) → Option (α × List Char) → Prop
  | none : Parallel resembles none none
  | some {first second : α} (same : resembles first second) (rest : List Char) :
      Parallel resembles (some (first, rest)) (some (second, rest))

namespace Parallel

variable {α β : Type} {resembles : α → α → Prop} {similar : β → β → Prop}
  {one other : Option (α × List Char)}

theorem refl (same : ∀ value, resembles value value) (read : Option (α × List Char)) :
    Parallel resembles read read := by
  cases read with
  | none => exact .none
  | some found => exact .some (same found.1) found.2

theorem cases (read : Parallel resembles one other) : one = .none ∧ other = .none ∨
    ∃ first second rest, one = .some (first, rest) ∧ other = .some (second, rest) ∧
      resembles first second := by
  cases read with
  | none => exact .inl ⟨rfl, rfl⟩
  | some same rest => exact .inr ⟨_, _, rest, rfl, rfl, same⟩

theorem bind {f g : α × List Char → Option (β × List Char)} (read : Parallel resembles one other)
    (next : ∀ first second rest, resembles first second →
      Parallel similar (f (first, rest)) (g (second, rest))) :
    Parallel similar (one.bind f) (other.bind g) := by
  cases read with
  | none => exact .none
  | some same rest => exact next _ _ rest same

theorem map {f g : α × List Char → β × List Char} (read : Parallel resembles one other)
    (next : ∀ first second rest, resembles first second →
      Parallel similar (.some (f (first, rest))) (.some (g (second, rest)))) :
    Parallel similar (one.map f) (other.map g) := by
  cases read with
  | none => exact .none
  | some same rest => exact next _ _ rest same

end Parallel

/-- Whether two atoms are the same, or both are sets. -/
inductive Atom.Resembles : Atom → Atom → Prop
  | refl (atom : Atom) : Resembles atom atom
  | set (first second : Charset) : Resembles (.set first) (.set second)

/-- Whether two readings of a set leave the same text, if there is a set. -/
abbrev Paired : Option (Charset × List Char) → Option (Charset × List Char) → Prop :=
  Parallel fun _ _ => True

theorem foldAndNegate?_cased (flags : Flags) (anyCase negated : Bool) (first second : Charset) :
    foldAndNegate? flags negated first = none ∧
        foldAndNegate? (flags.cased anyCase) negated second = none ∨
      ∃ one other, foldAndNegate? flags negated first = some one ∧
        foldAndNegate? (flags.cased anyCase) negated second = some other := by
  unfold foldAndNegate?
  cases refused : negated && !flags.unicode with
  | true => exact .inl ⟨rfl, if_pos refused⟩
  | false => exact .inr ⟨_, _, rfl, if_neg (Bool.eq_false_iff.mp refused)⟩

theorem takeDigits_cased (count : Nat) (chars : List Char) :
    takeDigits (flags.cased anyCase) count chars = takeDigits flags count chars := by
  induction count generalizing chars with
  | zero => rfl
  | succ count ih =>
    cases chars with
    | nil => rfl
    | cons c rest =>
      rw [takeDigits, takeDigits, ih]
      rfl

theorem hexCharacter?_cased (count : Nat) (chars : List Char) :
    hexCharacter? (flags.cased anyCase) count chars = hexCharacter? flags count chars := by
  unfold hexCharacter?
  simp only [takeDigits_cased]
  rfl

theorem single_cased {first second : Atom} (same : first.Resembles second) (rest : List Char) :
    Paired (bracketPart?.single flags first rest)
      (bracketPart?.single (flags.cased anyCase) second rest) := by
  cases same with
  | refl =>
    cases first with
    | character c =>
      show Parallel _ (if flags.covers c then _ else _) (if flags.covers c then _ else _)
      split
      · exact .some trivial rest
      · exact .none
    | set set => exact .some trivial rest
    | anchor condition => exact .none
  | set => exact .some trivial rest

theorem rangeUpTo?_cased {first second low high : Atom} (same : first.Resembles second)
    (ends : low.Resembles high) (rest : List Char) :
    rangeUpTo? flags first low rest = rangeUpTo? (flags.cased anyCase) second high rest := by
  cases same with
  | refl =>
    cases ends with
    | refl => rfl
    | set => cases first <;> rfl
  | set => cases ends <;> rfl

theorem bracketStart_cased (chars : List Char) :
    bracketStart (flags.cased anyCase) chars = bracketStart flags chars :=
  rfl

/-- Whether two sets are as deep. -/
def DeepSet.Resembles (first second : DeepSet) : Prop :=
  first.depth = second.depth

namespace Bracket

/-- Whether two classes are the same up to the characters in their sets. -/
structure Resembles (first second : Bracket) : Prop where
  negated : first.negated = second.negated
  before : first.before.map (Prod.map DeepSet.depth id) =
    second.before.map (Prod.map DeepSet.depth id)
  parts : first.parts.map DeepSet.depth = second.parts.map DeepSet.depth

variable {first second : Bracket}

theorem depth_union (same : first.parts.map DeepSet.depth = second.parts.map DeepSet.depth) :
    first.union.depth = second.union.depth := by
  have depth : first.parts.foldl (fun depth part => max depth part.depth) 0 =
      second.parts.foldl (fun depth part => max depth part.depth) 0 := by
    have folded := congrArg (List.foldl max 0) same
    rwa [List.foldl_map, List.foldl_map] at folded
  unfold union
  generalize first.parts = one at same depth
  generalize second.parts = other at same depth
  rcases one with - | ⟨a, - | ⟨b, one⟩⟩ <;> rcases other with - | ⟨c, - | ⟨d, other⟩⟩
  · rfl
  · cases same
  · cases same
  · cases same
  · exact (List.cons.inj same).1
  · cases (List.cons.inj same).2
  · cases same
  · cases (List.cons.inj same).2
  · exact congrArg (· + 1) depth

theorem depth_combined (flags : Flags) (anyCase : Bool) (same : first.Resembles second) :
    (first.combined flags).depth = (second.combined (flags.cased anyCase)).depth := by
  have right := depth_union same.parts
  have before := same.before
  unfold combined
  dsimp only
  generalize first.before = one at before
  generalize second.before = other at before
  cases one with
  | none =>
    cases other with
    | none => exact right
    | some => cases before
  | some one =>
    cases other with
    | none => cases before
    | some other =>
      obtain ⟨left, sign⟩ := Prod.mk.inj (Option.some.inj before)
      dsimp only
      rw [left, right]

namespace Resembles

theorem operator (flags : Flags) (anyCase : Bool) (same : first.Resembles second)
    (sign : Operator) :
    (first.operator flags sign).Resembles (second.operator (flags.cased anyCase) sign) :=
  ⟨same.negated, congrArg (fun depth => some (depth, sign)) (depth_combined flags anyCase same),
    rfl⟩

theorem part {one other : DeepSet} (same : first.Resembles second)
    (depth : one.Resembles other) : (first.part one).Resembles (second.part other) :=
  ⟨same.negated, same.before, congrArg₂ List.cons depth same.parts⟩

theorem set (same : first.Resembles second) (one other : Charset) :
    (first.part { set := one }).Resembles (second.part { set := other }) :=
  same.part rfl

end Resembles

theorem finish?_cased (flags : Flags) (anyCase : Bool) (same : first.Resembles second) :
    first.finish? flags = none ∧ second.finish? (flags.cased anyCase) = none ∨
      ∃ one other, first.finish? flags = some one ∧
        second.finish? (flags.cased anyCase) = some other ∧ one.Resembles other := by
  have depth := depth_combined flags anyCase same
  unfold finish?
  dsimp only
  rw [same.negated]
  rcases foldAndNegate?_cased flags anyCase second.negated (first.combined flags).set
      (second.combined (flags.cased anyCase)).set with ⟨alone, other⟩ | ⟨_, _, alone, other⟩
  · rw [alone, other]
    exact .inl ⟨rfl, rfl⟩
  · rw [alone, other]
    exact .inr ⟨_, _, rfl, rfl, congrArg (· + 1) depth⟩

end Bracket

variable [Dialect]

theorem propertyAtom?_cased (flags : Flags) (anyCase negated : Bool) (chars : List Char) :
    Parallel Atom.Resembles (propertyAtom? flags negated chars)
      (propertyAtom? (flags.cased anyCase) negated chars) := by
  show Parallel _ ((property? flags chars).bind _) ((property? flags chars).bind _)
  cases property? flags chars with
  | none => exact .none
  | some found =>
    rw [Option.bind_some, Option.bind_some]
    show Parallel _ _ (if flags.unicode then _ else none)
    split
    · exact .some (.set _ _) _
    · exact .none

theorem escape?_cased (flags : Flags) (anyCase : Bool) (chars : List Char) :
    Parallel Atom.Resembles (escape? flags chars) (escape? (flags.cased anyCase) chars) := by
  have equal := Parallel.refl Atom.Resembles.refl
  cases chars with
  | nil => exact .none
  | cons c rest =>
    unfold escape?
    dsimp only
    split
    · rw [hexCharacter?_cased]
      exact equal _
    · rw [hexCharacter?_cased]
      exact equal _
    · rw [hexCharacter?_cased]
      exact equal _
    · exact propertyAtom?_cased flags anyCase _ rest
    · exact propertyAtom?_cased flags anyCase _ rest
    · exact equal _
    · exact equal _
    · exact equal _
    · exact equal _
    · exact equal _
    · exact equal _
    · exact equal _

theorem bracketAtom?_cased (flags : Flags) (anyCase : Bool) (chars : List Char) :
    Parallel Atom.Resembles (bracketAtom? flags chars)
      (bracketAtom? (flags.cased anyCase) chars) := by
  unfold bracketAtom?
  split
  · exact .none
  · exact escape?_cased flags anyCase _
  · exact .some (.refl _) _

theorem bracketRange?_cased {first second : Atom} (same : first.Resembles second)
    (chars : List Char) :
    Paired (bracketRange? flags first chars)
      (bracketRange? (flags.cased anyCase) second chars) := by
  unfold bracketRange?
  split
  · exact .none
  · rename_i behind
    show Parallel _ _ (behindHyphen? _ second behind (Cursor.skipped flags behind))
    unfold behindHyphen?
    split
    · exact single_cased same _
    · exact single_cased same _
    · exact .none
    · refine (bracketAtom?_cased flags anyCase (Cursor.skipped flags behind)).bind
        fun low high rest ends => ?_
      dsimp only
      rw [rangeUpTo?_cased same ends]
      exact .refl (fun _ => trivial) _
  · exact single_cased same _

theorem bracketPart?_cased (flags : Flags) (anyCase : Bool) (chars : List Char) :
    Paired (bracketPart? flags chars) (bracketPart? (flags.cased anyCase) chars) := by
  rw [bracketPart?_eq, bracketPart?_eq]
  exact (bracketAtom?_cased flags anyCase chars).bind fun _ _ _ same => bracketRange?_cased same _

theorem bracketRest?_cased (flags : Flags) (anyCase : Bool) (fuel : Nat) {first second : Bracket}
    {outer around : List Bracket} (same : first.Resembles second)
    (outside : List.Forall₂ Bracket.Resembles outer around) (chars : List Char) :
    Parallel DeepSet.Resembles (bracketRest? flags first outer fuel chars)
      (bracketRest? (flags.cased anyCase) second around fuel chars) := by
  induction fuel generalizing first second outer around chars with
  | zero => exact .none
  | succ fuel ih =>
    cases start : Cursor.skipped flags chars with
    | nil =>
      rw [bracketRest?_of_notMem (by simp [start])]
      have ahead : Cursor.skipped (flags.cased anyCase) chars = [] := start
      rw [bracketRest?_of_notMem (by simp [ahead])]
      exact .none
    | cons c rest =>
      have ahead : Cursor.skipped (flags.cased anyCase) chars = c :: rest := start
      by_cases opened : c = '['
      · subst opened
        rw [bracketRest?_opening start, bracketRest?_opening ahead]
        cases asciiClass? rest with
        | none =>
          unfold bracketInner?
          rw [bracketStart_cased]
          exact ih ⟨rfl, rfl, rfl⟩ (.cons same outside) _
        | some found =>
          obtain ⟨set, negated, behind⟩ := found
          dsimp only [bracketInner?]
          rcases foldAndNegate?_cased flags anyCase negated set set with
            ⟨alone, other⟩ | ⟨_, _, alone, other⟩
          · rw [alone, other]
            exact .none
          · rw [alone, other]
            exact ih (same.set _ _) outside behind
      · unfold bracketRest?
        rw [start, ahead]
        split
        · exact .none
        · rename_i same
          exact absurd (List.cons.inj same).1 opened
        · rename_i behind _
          rcases Bracket.finish?_cased flags anyCase same with
            ⟨alone, other⟩ | ⟨one, next, alone, other, size⟩
          · rw [alone, other]
            exact .none
          · rw [alone, other]
            cases outside with
            | nil => exact .some size behind
            | cons inner outside => exact ih (inner.part size) outside behind
        · exact ih (same.operator flags anyCase .intersection) outside _
        · exact ih (same.operator flags anyCase .difference) outside _
        · exact ih (same.operator flags anyCase .symmetricDifference) outside _
        · exact (bracketPart?_cased flags anyCase (c :: rest)).bind fun _ _ behind _ =>
            ih (same.set _ _) outside behind

theorem bracketClass?_cased (flags : Flags) (anyCase : Bool) (chars : List Char) :
    Parallel DeepSet.Resembles (bracketClass? flags chars)
      (bracketClass? (flags.cased anyCase) chars) := by
  unfold bracketClass?
  rw [bracketStart_cased]
  exact bracketRest?_cased flags anyCase _ ⟨rfl, rfl, rfl⟩ .nil _

end FleetSearch.Pattern
