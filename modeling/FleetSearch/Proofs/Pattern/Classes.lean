import FleetSearch.Proofs.Pattern.Endings

/-! Classes in brackets that are read in front of a dot and a star: these close no class, so a class
is read as it is in a pattern that ends behind them. -/

namespace FleetSearch.Pattern

variable {flags : Flags} {chars longer : List Char}

theorem leadingHyphens_append (spaced inComment : Bool) (count : Nat) (chars : List Char) :
    (leadingHyphens spaced inComment count (chars ++ anything)).1 =
        (leadingHyphens spaced inComment count chars).1 ∧
      Longer (leadingHyphens spaced inComment count chars).2
        (leadingHyphens spaced inComment count (chars ++ anything)).2 := by
  induction chars generalizing inComment count with
  | nil =>
    have dot : Unicode.isBlank '.' = false := by decide
    cases inComment with
    | false =>
      have plain : leadingHyphens spaced false count anything = (count, anything) := by
        simp [leadingHyphens, anything, dot]
      rw [List.nil_append, plain]
      exact ⟨rfl, .append []⟩
    | true => exact ⟨rfl, .inr ⟨rfl, rfl⟩⟩
  | cons c rest ih =>
    rw [List.cons_append, leadingHyphens, leadingHyphens]
    split
    · exact ih _ _
    · split
      · exact ih _ _
      · split
        · exact ih _ _
        · split
          · exact ih _ _
          · exact ⟨rfl, .append _⟩

theorem leadingHyphens_longer (spaced : Bool) (count : Nat) (extended : Longer chars longer) :
    (leadingHyphens spaced false count longer).1 = (leadingHyphens spaced false count chars).1 ∧
      Longer (leadingHyphens spaced false count chars).2
        (leadingHyphens spaced false count longer).2 := by
  rcases extended with rfl | ⟨rfl, rfl⟩
  · exact leadingHyphens_append spaced false count chars
  · exact ⟨rfl, .inr ⟨rfl, rfl⟩⟩

theorem caret_append (flags : Flags) (chars : List Char) :
    (caret flags (chars ++ anything)).1 = (caret flags chars).1 ∧
      Longer (caret flags chars).2 (caret flags (chars ++ anything)).2 := by
  have skips := Cursor.skipped_longer flags (.append chars)
  unfold caret
  generalize Cursor.skipped flags chars = front at skips
  generalize Cursor.skipped flags (chars ++ anything) = ahead at skips
  rcases skips.starts_or '^' (by decide) with ⟨rest, rfl, rfl⟩ | ⟨alone, further⟩
  · exact ⟨rfl, Cursor.skipped_longer flags (.append rest)⟩
  · split
    · exact absurd rfl (further _)
    · exact ⟨rfl, skips⟩

theorem behindHyphens_longer (flags : Flags) (negated : Bool) (hyphens : Nat)
    (extended : Longer chars longer) :
    (behindHyphens flags negated hyphens longer).1 = (behindHyphens flags negated hyphens chars).1 ∧
      Longer (behindHyphens flags negated hyphens chars).2
        (behindHyphens flags negated hyphens longer).2 := by
  unfold behindHyphens
  split
  · exact ⟨rfl, extended⟩
  · rcases extended.starts_or ']' (by decide) with ⟨rest, rfl, rfl⟩ | ⟨alone, further⟩
    · exact ⟨rfl, Cursor.skipped_longer flags (.append rest)⟩
    · split
      · exact absurd rfl (further _)
      · exact ⟨rfl, extended⟩

theorem bracketStart_append (flags : Flags) (chars : List Char) :
    (bracketStart flags (chars ++ anything)).1 = (bracketStart flags chars).1 ∧
      Longer (bracketStart flags chars).2 (bracketStart flags (chars ++ anything)).2 := by
  obtain ⟨negated, rests⟩ := caret_append flags chars
  obtain ⟨hyphens, rests⟩ := leadingHyphens_longer flags.spaced 0 rests
  rw [bracketStart_eq, bracketStart_eq]
  dsimp only
  rw [negated, hyphens]
  exact behindHyphens_longer flags _ _ rests

/-- The name of a class of ASCII, behind its caret. -/
def asciiName? (negated : Bool) (chars : List Char) : Option (Charset × Bool × List Char) :=
  (Text.cutChars ':' chars).bind fun (name, rest) =>
    match rest with
    | ']' :: rest => (asciiSet? (String.ofList name)).bind fun set =>
        some (set, negated, rest)
    | _ => none

theorem asciiName?_alike (negated : Bool) (chars : List Char) :
    Alike beside (asciiName? negated chars) (asciiName? negated (chars ++ anything)) := by
  refine (cutChars_alike (by decide) chars).bind fun name rest behind extended => ?_
  dsimp only
  rcases extended.starts_or ']' (by decide) with ⟨rest, rfl, rfl⟩ | ⟨alone, further⟩
  · cases asciiSet? (String.ofList name) with
    | none => exact .none
    | some set => exact .some (set, negated) (.append rest)
  · split
    · exact absurd rfl (alone _)
    · exact .none

/-- Whether a class of ASCII is negated, and what follows the caret for that. -/
def asciiCaret (chars : List Char) : Bool × List Char :=
  match chars with
  | '^' :: rest => (true, rest)
  | _ => (false, chars)

theorem asciiClass?_colon (chars : List Char) :
    asciiClass? (':' :: chars) = asciiName? (asciiCaret chars).1 (asciiCaret chars).2 :=
  rfl

theorem asciiCaret_append (chars : List Char) :
    asciiCaret (chars ++ anything) = ((asciiCaret chars).1, (asciiCaret chars).2 ++ anything) := by
  cases chars with
  | nil => rfl
  | cons c rest =>
    rw [List.cons_append]
    unfold asciiCaret
    split
    · rename_i same
      cases same
      rfl
    · rename_i plain
      split
      · rename_i same
        cases same
        exact absurd rfl (plain _)
      · rfl

theorem asciiClass?_of_ne {c : Char} (colon : c ≠ ':') : asciiClass? (c :: chars) = none := by
  unfold asciiClass?
  split
  · rename_i same
    exact absurd (List.cons.inj same).1 colon
  · rfl

theorem asciiClass?_append (chars : List Char) :
    Alike beside (asciiClass? chars) (asciiClass? (chars ++ anything)) := by
  cases chars with
  | nil =>
    rw [List.nil_append, anything, asciiClass?_of_ne (by decide)]
    exact .none
  | cons c rest =>
    by_cases colon : c = ':'
    · subst colon
      rw [List.cons_append, asciiClass?_colon, asciiClass?_colon, asciiCaret_append]
      exact asciiName?_alike _ _
    · rw [List.cons_append, asciiClass?_of_ne colon, asciiClass?_of_ne colon]
      exact .none

theorem single_notMem {atom : Atom} {set : Charset} {rest : List Char} (unclosed : ']' ∉ chars)
    (read : bracketPart?.single flags atom chars = some (set, rest)) : ']' ∉ rest :=
  single_suffix read ▸ unclosed

theorem single_longer (flags : Flags) (atom : Atom) (extended : Longer chars longer) :
    Alike Prod.mk (bracketPart?.single flags atom chars)
      (bracketPart?.single flags atom longer) := by
  unfold bracketPart?.single
  cases atom with
  | character c =>
    dsimp only
    split
    · exact .some _ extended
    · exact .none
  | set set => exact .some _ extended
  | anchor condition => exact .none

/-- The range up to another side. -/
def rangeUpTo? (flags : Flags) (first last : Atom) (rest : List Char) :
    Option (Charset × List Char) :=
  match first, last with
  | .character low, .character high =>
    if low ≤ high && flags.covers high then some (.range low high, rest) else none
  | _, _ => none

theorem rangeUpTo?_longer (flags : Flags) (first last : Atom) (extended : Longer chars longer) :
    Alike Prod.mk (rangeUpTo? flags first last chars) (rangeUpTo? flags first last longer) := by
  unfold rangeUpTo?
  split
  · split
    · exact .some _ extended
    · exact .none
  · exact .none

theorem rangeUpTo?_rest {first last : Atom} {set : Charset} {rest : List Char}
    (read : rangeUpTo? flags first last chars = some (set, rest)) : rest = chars := by
  unfold rangeUpTo? at read
  split at read
  · split at read
    · cases read
      rfl
    · cases read
  · cases read

theorem rangeUpTo?_anchor (first : Atom) (condition : Anchor) (chars : List Char) :
    rangeUpTo? flags first (.anchor condition) chars = none := by
  cases first <;> rfl

/-- Whether a part of a class that is refused at the end of a pattern leaves no closing bracket
over if it is read in front of the signs. -/
def Unclosed (alone ahead : Option (Charset × List Char)) : Prop :=
  alone = none ∧ ∀ set rest, ahead = some (set, rest) → ']' ∉ rest

/-- The signs put no second sign behind one that ends a pattern. -/
theorem pair_of_append {sign c : Char} {rest behind : List Char} (dot : sign ≠ '.')
    (same : c :: (rest ++ anything) = sign :: sign :: behind) :
    ∃ inner, c :: rest = sign :: sign :: inner := by
  obtain ⟨rfl, same⟩ := List.cons.inj same
  cases rest with
  | nil => exact absurd (List.cons.inj same).1.symm dot
  | cons d inner =>
    obtain ⟨rfl, _⟩ := List.cons.inj same
    exact ⟨inner, rfl⟩

variable [Dialect]

theorem mem_of_bracketRest? {bracket : Bracket} {outer : List Bracket} {fuel : Nat}
    {found : DeepSet × List Char}
    (read : bracketRest? flags bracket outer fuel chars = some found) :
    ']' ∈ Cursor.skipped flags chars := by
  induction fuel generalizing bracket outer chars with
  | zero => cases read
  | succ fuel ih =>
    have later {front behind : List Char} (start : Cursor.skipped flags chars = front)
        (shorter : behind <:+ front) (closed : ']' ∈ Cursor.skipped flags behind) :
        ']' ∈ Cursor.skipped flags chars :=
      start ▸ shorter.subset ((Cursor.skipped_suffix flags behind).subset closed)
    unfold bracketRest? at read
    split at read
    · cases read
    · rename_i behind start
      split at read
      · rename_i ascii
        obtain ⟨set, _, read⟩ := Option.bind_eq_some_iff.mp read
        exact later start (suffix_of_cons (asciiClass?_suffix ascii)) (ih read)
      · exact later start (suffix_of_cons (bracketStart_suffix flags behind)) (ih read)
    · rename_i behind start
      exact start ▸ List.mem_cons_self
    · rename_i start
      exact later start (suffix_of_cons (List.suffix_cons _ _)) (ih read)
    · rename_i start
      exact later start (suffix_of_cons (List.suffix_cons _ _)) (ih read)
    · rename_i start
      exact later start (suffix_of_cons (List.suffix_cons _ _)) (ih read)
    · obtain ⟨⟨set, after⟩, part, read⟩ := Option.bind_eq_some_iff.mp read
      exact later rfl (bracketPart?_suffix part) (ih read)

theorem bracketRest?_of_notMem {bracket : Bracket} {outer : List Bracket} {fuel : Nat}
    (unclosed : ']' ∉ Cursor.skipped flags chars) :
    bracketRest? flags bracket outer fuel chars = none := by
  cases read : bracketRest? flags bracket outer fuel chars with
  | none => rfl
  | some found => exact absurd (mem_of_bracketRest? read) unclosed

/-- A side of a range is read in front of the signs as at the end, or is a stray escape. -/
theorem bracketAtom?_append (flags : Flags) (chars : List Char) :
    Alike Prod.mk (bracketAtom? flags chars) (bracketAtom? flags (chars ++ anything)) ∨
      bracketAtom? flags chars = none ∧ ∀ atom rest,
        bracketAtom? flags (chars ++ anything) = some (atom, rest) →
          ∃ behind, Stray flags behind atom rest := by
  cases chars with
  | nil =>
    refine .inr ⟨rfl, fun atom rest read => ?_⟩
    cases read
    exact ⟨_, .dot⟩
  | cons c rest =>
    by_cases slash : c = '\\'
    · subst slash
      rcases escape?_append flags rest with alike | ⟨refused, stray⟩
      · exact .inl alike
      · exact .inr ⟨refused, fun atom behind read => ⟨rest, stray atom behind read⟩⟩
    · have plain (rest : List Char) :
          bracketAtom? flags (c :: rest) = some (.character c, rest) := by
        unfold bracketAtom?
        split
        · rename_i same
          cases same
        · rename_i same
          exact absurd (List.cons.inj same).1 slash
        · rename_i same
          cases same
          rfl
      rw [List.cons_append, plain, plain]
      exact .inl (.some _ (.append rest))

/-- What follows the first side of a part and a hyphen, where `ahead` is the text behind that
without blanks and comments. -/
def behindHyphen? (flags : Flags) (first : Atom) (behind ahead : List Char) :
    Option (Charset × List Char) :=
  match ahead.head? with
  | some ']' | some '-' => bracketPart?.single flags first ('-' :: behind)
  | none => none
  | some _ => (bracketAtom? flags ahead).bind fun (last, rest) => rangeUpTo? flags first last rest

/-- What follows the first side of a part. -/
def bracketRange? (flags : Flags) (first : Atom) (rest : List Char) :
    Option (Charset × List Char) :=
  match rest with
  | [] => none
  | '-' :: behind => behindHyphen? flags first behind (Cursor.skipped flags behind)
  | _ => bracketPart?.single flags first rest

theorem bracketRange?_plain {first : Atom} {c : Char} {rest : List Char} (hyphen : c ≠ '-') :
    bracketRange? flags first (c :: rest) = bracketPart?.single flags first (c :: rest) := by
  unfold bracketRange?
  split
  · rename_i same
    cases same
  · rename_i same
    exact absurd (List.cons.inj same).1 hyphen
  · rfl

theorem bracketRange?_hyphen (flags : Flags) (first : Atom) (behind : List Char) :
    bracketRange? flags first ('-' :: behind) =
      behindHyphen? flags first behind (Cursor.skipped flags behind) :=
  rfl

theorem bracketPart?_eq (flags : Flags) (chars : List Char) : bracketPart? flags chars =
    (bracketAtom? flags chars).bind fun (first, rest) =>
      bracketRange? flags first (Cursor.skipped flags rest) := by
  unfold bracketPart?
  refine congrArg (Option.bind _) (funext fun (first, rest) => ?_)
  dsimp only
  generalize Cursor.skipped flags rest = behind
  split
  · rfl
  · rfl
  · rename_i nonempty hyphen
    cases behind with
    | nil => exact absurd rfl nonempty
    | cons c rest => exact (bracketRange?_plain fun same => hyphen rest (same ▸ rfl)).symm

theorem behindHyphen?_last {first : Atom} {c : Char} {behind rest : List Char}
    (last : c = ']' ∨ c = '-') : behindHyphen? flags first behind (c :: rest) =
      bracketPart?.single flags first ('-' :: behind) := by
  rcases last with rfl | rfl <;> rfl

theorem behindHyphen?_range {first : Atom} {c : Char} {behind rest : List Char}
    (last : ¬(c = ']' ∨ c = '-')) : behindHyphen? flags first behind (c :: rest) =
      (bracketAtom? flags (c :: rest)).bind fun (last, rest) =>
        rangeUpTo? flags first last rest := by
  unfold behindHyphen?
  dsimp only [List.head?_cons]
  split
  · rename_i same
    exact absurd (.inl (Option.some.inj same)) last
  · rename_i same
    exact absurd (.inr (Option.some.inj same)) last
  · rename_i same
    cases same
  · rfl

theorem bracketRange?_longer (first : Atom) (extended : Longer chars longer) :
    Alike Prod.mk (bracketRange? flags first chars) (bracketRange? flags first longer) ∨
      Unclosed (bracketRange? flags first chars) (bracketRange? flags first longer) := by
  rcases extended.cases with ⟨rfl, rfl | rfl⟩ | ⟨c, rest, rfl, rfl⟩
  · refine .inr ⟨rfl, fun set rest read => ?_⟩
    rw [anything, bracketRange?_plain (by decide)] at read
    exact single_notMem (by decide) read
  · exact .inl .none
  · by_cases hyphen : c = '-'
    · subst hyphen
      have skips := Cursor.skipped_longer flags (.append rest)
      rw [bracketRange?_hyphen, bracketRange?_hyphen]
      rcases skips.cases with ⟨alone, ahead | ahead⟩ | ⟨d, inner, alone, ahead⟩
      · rw [alone, ahead]
        refine .inr ⟨rfl, fun set behind read => ?_⟩
        rw [anything, behindHyphen?_range (by decide)] at read
        rw [rangeUpTo?_rest read]
        decide
      · rw [alone, ahead]
        exact .inl .none
      · rw [alone, ahead]
        by_cases last : d = ']' ∨ d = '-'
        · rw [behindHyphen?_last last, behindHyphen?_last last]
          exact .inl (single_longer flags first (.append ('-' :: rest)))
        · rw [behindHyphen?_range last, behindHyphen?_range last]
          rcases bracketAtom?_append flags (d :: inner) with alike | ⟨refused, stray⟩
          · exact .inl (alike.bind fun last _ _ extended =>
              rangeUpTo?_longer flags first last extended)
          · refine .inr ⟨by rw [refused]; rfl, fun set behind read => ?_⟩
            obtain ⟨⟨atom, left⟩, other, read⟩ := Option.bind_eq_some_iff.mp read
            obtain ⟨_, stray⟩ := stray atom left other
            rw [rangeUpTo?_rest read]
            cases stray with
            | dot => decide
            | brace =>
              dsimp only at read
              rw [rangeUpTo?_anchor] at read
              cases read
    · rw [bracketRange?_plain hyphen, bracketRange?_plain hyphen]
      exact .inl (single_longer flags first (.append (c :: rest)))

theorem bracketPart?_append (flags : Flags) (chars : List Char) :
    Alike Prod.mk (bracketPart? flags chars) (bracketPart? flags (chars ++ anything)) ∨
      Unclosed (bracketPart? flags chars) (bracketPart? flags (chars ++ anything)) := by
  rw [bracketPart?_eq, bracketPart?_eq]
  rcases bracketAtom?_append flags chars with alike | ⟨refused, stray⟩
  · generalize bracketAtom? flags chars = alone, bracketAtom? flags (chars ++ anything) = ahead
      at alike
    cases alike with
    | none => exact .inl .none
    | some value extended =>
      exact bracketRange?_longer value (Cursor.skipped_longer flags extended)
  · refine .inr ⟨by rw [refused]; rfl, fun set behind read => ?_⟩
    obtain ⟨⟨atom, left⟩, first, read⟩ := Option.bind_eq_some_iff.mp read
    obtain ⟨_, stray⟩ := stray atom left first
    have solid : Cursor.skipped flags left = left := by
      cases stray with
      | dot => exact Cursor.skipped_of_solid (by decide) (by decide)
      | brace => exact Cursor.skipped_of_solid (by decide) (by decide)
    dsimp only at read
    rw [solid] at read
    cases stray with
    | dot =>
      rw [bracketRange?_plain (by decide)] at read
      exact single_notMem (by decide) read
    | brace =>
      rw [bracketRange?_plain (by decide)] at read
      cases read

/-- What follows an opening bracket inside of a class: a class of ASCII, or a class of its own. -/
def bracketInner? (flags : Flags) (bracket : Bracket) (outer : List Bracket) (fuel : Nat)
    (rest : List Char) (ascii : Option (Charset × Bool × List Char)) :
    Option (DeepSet × List Char) :=
  match ascii with
  | some (set, negated, rest) => (foldAndNegate? flags negated set).bind fun set =>
      bracketRest? flags (bracket.part { set }) outer fuel rest
  | none =>
    let (inner, rest) := bracketStart flags rest
    bracketRest? flags inner (bracket :: outer) fuel rest

theorem bracketRest?_opening {bracket : Bracket} {outer : List Bracket} {fuel : Nat}
    {rest : List Char} (start : Cursor.skipped flags chars = '[' :: rest) :
    bracketRest? flags bracket outer (fuel + 1) chars =
      bracketInner? flags bracket outer fuel rest (asciiClass? rest) := by
  rw [bracketRest?, start]
  rfl

theorem bracketRest?_longer {fuel other : Nat} (bracket : Bracket) (outer : List Bracket)
    (extended : Longer chars longer) (enough : chars.length < fuel) (more : fuel ≤ other) :
    Alike Prod.mk (bracketRest? flags bracket outer fuel chars)
      (bracketRest? flags bracket outer other longer) := by
  induction fuel generalizing other bracket outer chars longer with
  | zero => exact absurd enough (Nat.not_lt_zero _)
  | succ fuel ih =>
    obtain ⟨other, rfl⟩ : ∃ fuel, other = fuel + 1 := ⟨other - 1, by omega⟩
    have shorter := (Cursor.skipped_suffix flags chars).length_le
    have skips := Cursor.skipped_longer flags extended
    rcases skips.cases with ⟨alone, ahead | ahead⟩ | ⟨c, rest, alone, ahead⟩
    · rw [bracketRest?_of_notMem (by simp [alone]), bracketRest?_of_notMem (by rw [ahead]; decide)]
      exact .none
    · rw [bracketRest?_of_notMem (by simp [alone]), bracketRest?_of_notMem (by simp [ahead])]
      exact .none
    · rw [alone, List.length_cons] at shorter
      have further {bracket : Bracket} {outer : List Bracket} {left behind : List Char}
          (suffix : left <:+ rest) (extended : Longer left behind) :=
        ih bracket outer extended (by have := suffix.length_le; omega)
          (Nat.le_of_succ_le_succ more)
      by_cases opened : c = '['
      · subst opened
        rcases (asciiClass?_append rest).cases with ⟨inner, same⟩ | ⟨found, left, behind, ascii⟩
        · obtain ⟨starts, rests⟩ := bracketStart_append flags rest
          rw [bracketRest?_opening alone, bracketRest?_opening ahead, inner, same, bracketInner?,
            bracketInner?]
          dsimp only
          rw [starts]
          exact further (bracketStart_suffix flags rest) rests
        · obtain ⟨read, same, extended⟩ := ascii
          rw [bracketRest?_opening alone, bracketRest?_opening ahead, read, same, bracketInner?,
            bracketInner?, beside, beside]
          dsimp only
          cases foldAndNegate? flags found.2 found.1 with
          | none => exact .none
          | some set => exact further (asciiClass?_suffix read) extended
      unfold bracketRest?
      rw [alone, ahead]
      split
      · rename_i same
        cases same
      · rename_i rest same
        exact absurd (List.cons.inj same).1 opened
      · rename_i rest same
        cases same
        cases bracket.finish? flags with
        | none => exact .none
        | some finished =>
          cases outer with
          | nil => exact .some finished (.append rest)
          | cons around outer => exact further (List.suffix_refl rest) (.append rest)
      · rename_i rest same
        cases same
        exact further (suffix_of_cons (List.suffix_refl _)) (.append rest)
      · rename_i rest same
        cases same
        exact further (suffix_of_cons (List.suffix_refl _)) (.append rest)
      · rename_i rest same
        cases same
        exact further (suffix_of_cons (List.suffix_refl _)) (.append rest)
      · rename_i closed both dashes waves
        split
        · rename_i same
          cases same
        · rename_i same
          exact absurd (List.cons.inj same).1 opened
        · rename_i same
          cases same
          exact absurd rfl (closed _)
        · rename_i same
          obtain ⟨inner, pair⟩ := pair_of_append (by decide) same
          exact absurd pair (both inner)
        · rename_i same
          obtain ⟨inner, pair⟩ := pair_of_append (by decide) same
          exact absurd pair (dashes inner)
        · rename_i same
          obtain ⟨inner, pair⟩ := pair_of_append (by decide) same
          exact absurd pair (waves inner)
        · rcases bracketPart?_append flags (c :: rest) with alike | ⟨refused, unclosed⟩
          · refine alike.bind_read fun set left behind part extended => ih _ _ extended ?_
              (Nat.le_of_succ_le_succ more)
            have fewer := bracketPart?_shorter part
            rw [List.length_cons] at fewer
            omega
          · rw [refused, ← List.cons_append]
            cases part : bracketPart? flags (c :: rest ++ anything) with
            | none => exact .none
            | some found =>
              obtain ⟨set, left⟩ := found
              have stuck {bracket : Bracket} :
                  bracketRest? flags bracket outer other left = none :=
                bracketRest?_of_notMem fun closed =>
                  unclosed set left part ((Cursor.skipped_suffix flags left).subset closed)
              rw [Option.bind_eq_bind, Option.bind_some]
              dsimp only
              rw [stuck]
              exact .none

theorem bracketClass?_append (flags : Flags) (chars : List Char) :
    Alike Prod.mk (bracketClass? flags chars) (bracketClass? flags (chars ++ anything)) := by
  obtain ⟨starts, rests⟩ := bracketStart_append flags chars
  unfold bracketClass?
  dsimp only
  rw [starts]
  refine bracketRest?_longer _ _ rests (Nat.lt_succ_self _) (Nat.succ_le_succ ?_)
  rcases rests with same | ⟨alone, ahead⟩
  · simp [same]
  · simp [alone, ahead]

end FleetSearch.Pattern
