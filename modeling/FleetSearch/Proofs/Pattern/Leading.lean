import FleetSearch.Proofs.Pattern.Rows

/-! Patterns with the signs for any characters in front of them. These become the first part of the
first alternative, unless the pattern starts with a sign that repeats them. -/

namespace FleetSearch.Pattern

open Regex (Passes Starts)

variable {text : Array Char} {front plain headed : DeepRegex} {done other : Option DeepRegex}
  {parts more : Parts}

/-- Whether an expression is another one whose first alternative has a part in front of it. -/
inductive Headed (front : DeepRegex) : DeepRegex → DeepRegex → Prop
  | row (parts : Parts) : Headed front parts.row (Parts.row (parts ++ [some front, none]))
  | beside {plain headed : DeepRegex} (same : Headed front plain headed) (last : DeepRegex) :
      Headed front (.besides (some plain) last) (.besides (some headed) last)
  | nested {plain headed : DeepRegex} (same : Headed front plain headed) :
      Headed front plain.nested headed.nested

/-- Whether what has been read differs in a part in front of the first alternative. -/
inductive Ahead (front : DeepRegex) :
    Option DeepRegex → Parts → Option DeepRegex → Parts → Prop
  | first (parts : Parts) : Ahead front none parts none (parts ++ [some front, none])
  | later {plain headed : DeepRegex} (same : Headed front plain headed) (parts : Parts) :
      Ahead front (some plain) parts (some headed) parts

namespace Ahead

theorem joined (ahead : Ahead front done parts other more) :
    Headed front (.besides done parts.row) (.besides other more.row) := by
  cases ahead with
  | first => exact .row parts
  | later same => exact .beside same parts.row

theorem finished (ahead : Ahead front done parts other more) :
    Headed front (finished done parts) (Pattern.finished other more) := by
  cases ahead with
  | first => exact .row parts
  | later same => exact .nested (.beside same parts.row)

theorem push (ahead : Ahead front done parts other more) (part : Option DeepRegex) :
    Ahead front done (part :: parts) other (part :: more) := by
  cases ahead with
  | first => exact .first (part :: parts)
  | later same => exact .later same (part :: parts)

/-- A repetition changes the part in front of it on both sides, unless there is none but the one
in front of the first alternative. -/
theorem repeated (ahead : Ahead front done parts other more) (least : Nat) (most : Option Nat)
    (started : ¬(done = none ∧ parts = [])) :
    parts.repeated? least most = none ∧ more.repeated? least most = none ∨
      ∃ again next, parts.repeated? least most = some again ∧
        more.repeated? least most = some next ∧ again ≠ [] ∧ Ahead front done again other next := by
  cases ahead with
  | first =>
    cases parts with
    | nil => exact absurd ⟨rfl, rfl⟩ started
    | cons last before =>
      cases last with
      | none => exact .inl ⟨rfl, rfl⟩
      | some last => exact .inr ⟨_, _, rfl, rfl, List.cons_ne_nil _ _, .first (_ :: before)⟩
  | later same =>
    rcases parts with - | ⟨last | last, before⟩
    · exact .inl ⟨rfl, rfl⟩
    · exact .inl ⟨rfl, rfl⟩
    · exact .inr ⟨_, _, rfl, rfl, List.cons_ne_nil _ _, .later same _⟩

end Ahead

/-- Whether two readings come to the same, apart from the part in front of the first alternative. -/
inductive Headings (front : DeepRegex) :
    Option (DeepRegex × Cursor) → Option (DeepRegex × Cursor) → Prop
  | refused : Headings front none none
  | read {plain headed : DeepRegex} (same : Headed front plain headed) (cursor : Cursor) :
      Headings front (some (plain, cursor)) (some (headed, cursor))

/-- Whether a text does not repeat what stands in front of it when nothing does. -/
def Unrepeated (done : Option DeepRegex) (parts : Parts) (flags : Flags) (chars : List Char) :
    Prop :=
  done = none ∧ parts = [] →
    ∀ c rest, Cursor.skipped flags chars = c :: rest → repeats c = false

theorem unrepeated_cons {part : Option DeepRegex} {flags : Flags} {chars : List Char} :
    Unrepeated done (part :: parts) flags chars :=
  fun bare => absurd bare.2 (List.cons_ne_nil _ _)

theorem regexes_front (parts : Parts) :
    (parts ++ [some front, none]).regexes = parts.regexes ++ [front.regex] := by
  simp [Parts.regexes]

/-- With any number of characters in front, an expression still matches from each place where it
did. -/
theorem Headed.starts {set : Charset} {place : Nat} (same : Headed (anyNumber set) plain headed)
    (start : Starts text plain.regex place) : Starts text headed.regex place := by
  induction same with
  | row parts =>
    obtain ⟨stop, passed⟩ := starts_row.mp start
    refine starts_row.mpr ⟨stop, ?_⟩
    rw [regexes_front]
    exact Regex.passes_append.mpr ⟨place, mem_anyNumber set, passed⟩
  | beside _ last ih => exact Regex.starts_choice.mpr ((Regex.starts_choice.mp start).imp_left ih)
  | nested _ ih => exact ih start

/-- With any number of characters in front, an expression matches from a place only if it did from
that place or a later one. -/
theorem Headed.starts_later {set : Charset} {place : Nat}
    (same : Headed (anyNumber set) plain headed) (inside : place ≤ text.size)
    (start : Starts text headed.regex place) :
    ∃ later ≤ text.size, Starts text plain.regex later := by
  induction same with
  | row parts =>
    obtain ⟨stop, passed⟩ := starts_row.mp start
    rw [regexes_front] at passed
    obtain ⟨middle, skipped, passed⟩ := Regex.passes_append.mp passed
    exact ⟨middle, (Regex.ends_within inside middle skipped).2, starts_row.mpr ⟨stop, passed⟩⟩
  | beside _ last ih =>
    rcases Regex.starts_choice.mp start with one | last
    · obtain ⟨later, inside, start⟩ := ih one
      exact ⟨later, inside, Regex.starts_choice.mpr (.inl start)⟩
    · exact ⟨place, inside, Regex.starts_choice.mpr (.inr last)⟩
  | nested _ ih => exact ih start

theorem Headed.matchesWithin {set : Charset} (same : Headed (anyNumber set) plain headed)
    (text : String) : headed.regex.matchesWithin text = plain.regex.matchesWithin text := by
  rw [Bool.eq_iff_iff, Regex.matchesWithin_iff, Regex.matchesWithin_iff]
  constructor
  · rintro ⟨place, inside, start⟩
    exact same.starts_later inside start
  · rintro ⟨place, inside, start⟩
    exact ⟨place, inside, same.starts start⟩

variable [Dialect]

/-- Whether a part in front of the first alternative stays there when alternatives are read with
some fuel. -/
def AlternativesHeaded (front : DeepRegex) (fuel : Nat) : Prop :=
  ∀ ⦃done other : Option DeepRegex⦄ ⦃parts more : Parts⦄ ⦃chars : List Char⦄ ⦃flags : Flags⦄
    ⦃names : List String⦄, Ahead front done parts other more → Unrepeated done parts flags chars →
      Headings front (alternatives? done parts fuel { rest := chars, flags, names })
        (alternatives? other more fuel { rest := chars, flags, names })

/-- Whether a part in front of the first alternative stays there when a group is read with some
fuel. -/
def GroupsHeaded (front : DeepRegex) (fuel : Nat) : Prop :=
  ∀ ⦃done other : Option DeepRegex⦄ ⦃parts more : Parts⦄ ⦃chars : List Char⦄ ⦃flags : Flags⦄
    ⦃names : List String⦄, Ahead front done parts other more →
      Headings front (group? done parts fuel { rest := chars, flags, names })
        (group? other more fuel { rest := chars, flags, names })

section

variable {fuel : Nat} {flags : Flags} {names : List String} {c : Char} {rest : List Char}

theorem repetition_headed (alternatives : AlternativesHeaded front fuel)
    (ahead : Ahead front done parts other more) (started : ¬(done = none ∧ parts = []))
    (again : repeats c = true) :
    Headings front (proceed? done parts fuel flags names c rest)
      (proceed? other more fuel flags names c rest) := by
  rw [proceed?_repeats again, proceed?_repeats again]
  cases times? flags c rest with
  | none => exact .refused
  | some found =>
    obtain ⟨least, most, behind⟩ := found
    rw [Option.bind_some, Option.bind_some]
    dsimp only
    rcases ahead.repeated least most started with
      ⟨stuck, same⟩ | ⟨again, next, repeated, same, nonempty, ahead⟩
    · rw [stuck, same]
      exact .refused
    · rw [repeated, same]
      exact alternatives ahead fun bare => absurd bare.2 nonempty

theorem part_headed (alternatives : AlternativesHeaded front fuel)
    (ahead : Ahead front done parts other more)
    (plain : c ≠ ')' ∧ c ≠ '|' ∧ c ≠ '(' ∧ repeats c = false) :
    Headings front (proceed? done parts fuel flags names c rest)
      (proceed? other more fuel flags names c rest) := by
  rw [proceed?_part plain, proceed?_part plain]
  cases part? flags c rest with
  | none => exact .refused
  | some found => exact alternatives (ahead.push _) unrepeated_cons

end

theorem alternatives_headed {fuel : Nat} (alternatives : AlternativesHeaded front fuel)
    (groups : GroupsHeaded front fuel) : AlternativesHeaded front (fuel + 1) := by
  intro done other parts more chars flags names ahead unrepeated
  cases start : Cursor.skipped flags chars with
  | nil =>
    rw [alternatives?_nil start, alternatives?_nil start]
    exact .read ahead.finished _
  | cons c rest =>
    rw [alternatives?_cons start, alternatives?_cons start]
    rcases kinds c with rfl | rfl | rfl | again | plain
    · exact .read ahead.finished _
    · exact alternatives (.later ahead.joined []) fun bare =>
        absurd bare.1 (Option.some_ne_none _)
    · exact groups ahead
    · refine repetition_headed alternatives ahead (fun bare => ?_) again
      exact absurd (unrepeated bare c rest start) (by simp [again])
    · exact part_headed alternatives ahead plain

theorem groups_headed {fuel : Nat} (alternatives : AlternativesHeaded front fuel) :
    GroupsHeaded front (fuel + 1) := by
  intro done other parts more chars flags names ahead
  cases opening : opening? { rest := chars, flags, names } with
  | none =>
    rw [group?_refused opening, group?_refused opening]
    exact .refused
  | some found =>
    obtain ⟨start, inner⟩ := found
    cases start with
    | flags set =>
      rw [group?_flags opening, group?_flags opening]
      exact alternatives (ahead.push none) unrepeated_cons
    | group set name =>
      -- The inside of the group is read alike on both sides.
      rw [group?_group opening, group?_group opening]
      cases alternatives? none [] fuel { inner with flags := set } with
      | none => exact .refused
      | some found =>
        rw [Option.bind_some, Option.bind_some]
        unfold closed?
        split
        · exact alternatives (ahead.push _) unrepeated_cons
        · exact .refused

theorem headed_readings (front : DeepRegex) (fuel : Nat) :
    AlternativesHeaded front fuel ∧ GroupsHeaded front fuel := by
  induction fuel with
  | zero =>
    exact ⟨fun _ _ _ _ _ _ _ _ _ => .refused, fun _ _ _ _ _ _ _ _ => .refused⟩
  | succ fuel ih => exact ⟨alternatives_headed ih.1 ih.2, groups_headed ih.1⟩

end FleetSearch.Pattern
