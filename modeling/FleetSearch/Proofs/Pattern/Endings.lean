import FleetSearch.Proofs.Pattern.Suffixes
import FleetSearch.Proofs.Text.Quoted

/-! Parts of patterns that are read in front of a dot and a star: they are read as they are in a
pattern that ends behind them. -/

namespace FleetSearch.Pattern

variable {α β : Type} {flags : Flags} {chars longer : List Char}

/-- The signs for any characters. -/
def anything : List Char := ['.', '*']

/-- Whether a text is another one with the signs for any characters behind it. When the other one
has come to its end in a comment, the signs are a part of that. -/
def Longer (chars longer : List Char) : Prop :=
  longer = chars ++ anything ∨ chars = [] ∧ longer = []

theorem Longer.append (chars : List Char) : Longer chars (chars ++ anything) := .inl rfl

theorem Longer.cases (extended : Longer chars longer) :
    (chars = [] ∧ (longer = anything ∨ longer = [])) ∨
      ∃ c rest, chars = c :: rest ∧ longer = c :: (rest ++ anything) := by
  rcases extended with rfl | ⟨rfl, rfl⟩
  · cases chars with
    | nil => exact .inl ⟨rfl, .inl rfl⟩
    | cons c rest => exact .inr ⟨c, rest, rfl, rfl⟩
  · exact .inl ⟨rfl, .inr rfl⟩

/-- A character that starts one of two texts starts the other one, unless it is the dot. -/
theorem Longer.starts_or (extended : Longer chars longer) (c : Char) (dot : c ≠ '.') :
    (∃ rest, chars = c :: rest ∧ longer = c :: (rest ++ anything)) ∨
      (∀ rest, chars ≠ c :: rest) ∧ ∀ rest, longer ≠ c :: rest := by
  rcases extended.cases with ⟨rfl, rfl | rfl⟩ | ⟨d, rest, rfl, rfl⟩
  · refine .inr ⟨fun rest same => (List.cons_ne_nil _ _ same.symm).elim, fun rest same => ?_⟩
    exact dot (List.cons.inj same).1.symm
  · exact .inr ⟨fun rest same => (List.cons_ne_nil _ _ same.symm).elim,
      fun rest same => (List.cons_ne_nil _ _ same.symm).elim⟩
  · by_cases same : d = c
    · exact .inl ⟨rest, same ▸ rfl, same ▸ rfl⟩
    · exact .inr ⟨fun rest other => same (List.cons.inj other).1,
        fun rest other => same (List.cons.inj other).1⟩

/-- Whether a reading in front of the signs for any characters comes to what it does at the end: to
nothing, or to the same value with the rest of the text put beside it. -/
inductive Alike (put : α → List Char → β) : Option β → Option β → Prop
  | none : Alike put none none
  | some (value : α) {rest behind : List Char} (extended : Longer rest behind) :
      Alike put (some (put value rest)) (some (put value behind))

/-- Puts a text beside two values. -/
def beside (values : α × β) (rest : List Char) : α × β × List Char :=
  (values.1, values.2, rest)

namespace Alike

variable {γ δ : Type} {put : α → List Char → β} {place : γ → List Char → δ}
  {first second : Option β}

theorem cases (alike : Alike put first second) :
    first = .none ∧ second = .none ∨ ∃ value rest behind, first = .some (put value rest) ∧
      second = .some (put value behind) ∧ Longer rest behind := by
  cases alike with
  | none => exact .inl ⟨rfl, rfl⟩
  | some value extended => exact .inr ⟨value, _, _, rfl, rfl, extended⟩

theorem bind_read {f g : β → Option δ} (alike : Alike put first second)
    (next : ∀ value rest behind, first = .some (put value rest) → Longer rest behind →
      Alike place (f (put value rest)) (g (put value behind))) :
    Alike place (first.bind f) (second.bind g) := by
  cases alike with
  | none => exact .none
  | some value extended => exact next value _ _ rfl extended

theorem bind {f g : β → Option δ} (alike : Alike put first second)
    (next : ∀ value rest behind, Longer rest behind →
      Alike place (f (put value rest)) (g (put value behind))) :
    Alike place (first.bind f) (second.bind g) :=
  alike.bind_read fun value rest behind _ => next value rest behind

theorem map {f : β → δ} {values : α → γ} (alike : Alike put first second)
    (same : ∀ value rest, f (put value rest) = place (values value) rest) :
    Alike place (first.map f) (second.map f) := by
  cases alike with
  | none => exact .none
  | some value extended =>
    rw [Option.map_some, Option.map_some, same, same]
    exact .some _ extended

theorem given (value : Option α) {rest behind : List Char} (extended : Longer rest behind) :
    Alike put (value.bind fun found => Option.some (put found rest))
      (value.bind fun found => Option.some (put found behind)) := by
  cases value with
  | none => exact .none
  | some found => exact .some found extended

end Alike

theorem Cursor.skipped_nil (flags : Flags) : skipped flags [] = [] := by
  unfold skipped
  split <;> rfl

theorem Cursor.skipped_of_solid {c : Char} {rest : List Char} (blank : Unicode.isBlank c = false)
    (hash : c ≠ '#') : skipped flags (c :: rest) = c :: rest := by
  unfold skipped
  split
  · rw [behindSpace]
    simp [blank, hash]
  · rfl

theorem Cursor.behindSpace_append (inComment : Bool) (chars : List Char) :
    Longer (behindSpace inComment chars) (behindSpace inComment (chars ++ anything)) := by
  induction chars generalizing inComment with
  | nil =>
    cases inComment with
    | false => exact .inl (by decide)
    | true => exact .inr (by decide)
  | cons c rest ih =>
    rw [List.cons_append, behindSpace, behindSpace]
    split
    · exact ih _
    · split
      · exact ih _
      · split
        · exact ih _
        · exact .inl rfl

theorem Cursor.behindSpace_longer (extended : Longer chars longer) :
    Longer (behindSpace false chars) (behindSpace false longer) := by
  rcases extended with rfl | ⟨rfl, rfl⟩
  · exact behindSpace_append false chars
  · exact .inr ⟨rfl, rfl⟩

theorem Cursor.skipped_longer (flags : Flags) (extended : Longer chars longer) :
    Longer (skipped flags chars) (skipped flags longer) := by
  unfold skipped
  split
  · exact behindSpace_longer extended
  · exact extended

/-- A brace that is missing at the end is missing in front of the signs, which hold none. -/
theorem bracedText?_alike (spaced inComment : Bool) (chars : List Char) :
    Alike Prod.mk (bracedText? spaced inComment chars)
      (bracedText? spaced inComment (chars ++ anything)) := by
  induction chars generalizing inComment with
  | nil =>
    have dot : Unicode.isBlank '.' = false := by decide
    have star : Unicode.isBlank '*' = false := by decide
    have unclosed : bracedText? spaced inComment anything = none := by
      cases inComment <;> simp [bracedText?, anything, dot, star]
    rw [List.nil_append, unclosed]
    exact .none
  | cons c rest ih =>
    rw [List.cons_append, bracedText?, bracedText?]
    split
    · exact ih _
    · split
      · exact .some [] (.append rest)
      · split
        · exact ih _
        · split
          · exact ih _
          · exact (ih _).map fun _ _ => rfl

theorem cutChars_alike {separator : Char} (apart : separator ∉ anything) (chars : List Char) :
    Alike Prod.mk (Text.cutChars separator chars)
      (Text.cutChars separator (chars ++ anything)) := by
  induction chars with
  | nil =>
    rw [List.nil_append, Text.cutChars_of_notMem apart]
    exact .none
  | cons c rest ih =>
    rw [List.cons_append, Text.cutChars, Text.cutChars]
    split
    · exact .some [] (.append rest)
    · exact ih.map fun _ _ => rfl

theorem readDigits_of_dot {base value : Nat} {digits : List Char}
    (dot : '.' ∈ digits) : Text.readDigits base value digits = none := by
  induction digits generalizing value with
  | nil => cases dot
  | cons c rest ih =>
    rw [Text.readDigits]
    rcases List.mem_cons.mp dot with rfl | later
    · have strange : Text.digitValue? base '.' = none := by
        simp [Text.digitValue?]
      rw [strange]
      rfl
    · cases Text.digitValue? base c with
      | none => rfl
      | some digit => exact ih later

theorem codeChar?_of_dot {digits : List Char} (dot : '.' ∈ digits) : codeChar? digits = none := by
  have unread : Text.natural? 16 digits = none := by
    unfold Text.natural?
    split
    · rfl
    · exact readDigits_of_dot dot
  rw [codeChar?, unread]
  rfl

/-- A number of digits in front of the signs are those at the end, unless there are too few. -/
theorem takeDigits_longer (flags : Flags) (count : Nat) (extended : Longer chars longer) :
    ((takeDigits flags count longer).1 = (takeDigits flags count chars).1 ∧
      Longer (takeDigits flags count chars).2 (takeDigits flags count longer).2) ∨
    (takeDigits flags count chars).1.length < count ∧ '.' ∈ (takeDigits flags count longer).1 := by
  induction count generalizing chars longer with
  | zero => exact .inl ⟨rfl, extended⟩
  | succ count ih =>
    rcases extended.cases with ⟨rfl, rfl | rfl⟩ | ⟨c, rest, rfl, rfl⟩
    · exact .inr ⟨Nat.succ_pos _, List.mem_cons_self⟩
    · exact .inl ⟨rfl, .inr ⟨rfl, rfl⟩⟩
    · rcases ih (Cursor.skipped_longer flags (.append rest)) with ⟨digits, rests⟩ | ⟨short, dot⟩
      · exact .inl ⟨congrArg (c :: ·) digits, rests⟩
      · exact .inr ⟨Nat.succ_lt_succ short, List.mem_cons_of_mem c dot⟩

/-- A character by the given number of digits. -/
def digitsCharacter? (flags : Flags) (count : Nat) (chars : List Char) :
    Option (Char × List Char) :=
  let (digits, rest) := takeDigits flags count chars
  (codeChar? digits).bind fun c =>
    if digits.length = count && (count != 2 || flags.covers c) then some (c, rest) else none

theorem digitsCharacter?_longer (flags : Flags) (count : Nat) (extended : Longer chars longer) :
    Alike Prod.mk (digitsCharacter? flags count chars) (digitsCharacter? flags count longer) := by
  unfold digitsCharacter?
  dsimp only
  rcases takeDigits_longer flags count extended with ⟨digits, rests⟩ | ⟨short, dot⟩
  · rw [digits]
    cases codeChar? (takeDigits flags count chars).1 with
    | none => exact .none
    | some c =>
      rw [Option.bind_some, Option.bind_some]
      split
      · exact .some c rests
      · exact .none
  · have few : ¬(takeDigits flags count chars).1.length = count := Nat.ne_of_lt short
    rw [codeChar?_of_dot dot]
    cases codeChar? (takeDigits flags count chars).1 with
    | none => exact .none
    | some c =>
      rw [Option.bind_some, decide_eq_false few, Bool.false_and]
      exact .none

/-- A character between braces, behind the first of them. -/
def bracedCharacter? (flags : Flags) (chars : List Char) : Option (Char × List Char) :=
  (bracedText? flags.spaced false chars).bind fun (digits, rest) =>
    (codeChar? digits).bind fun c => some (c, Cursor.skipped flags rest)

theorem bracedCharacter?_alike (flags : Flags) (chars : List Char) :
    Alike Prod.mk (bracedCharacter? flags chars) (bracedCharacter? flags (chars ++ anything)) :=
  (bracedText?_alike flags.spaced false chars).bind fun _ _ _ extended =>
    .given _ (Cursor.skipped_longer flags extended)

theorem hexCharacter?_eq (flags : Flags) (count : Nat) (chars : List Char) :
    hexCharacter? flags count chars =
      match Cursor.skipped flags chars with
      | '\x7b' :: rest => bracedCharacter? flags rest
      | rest => digitsCharacter? flags count rest :=
  rfl

theorem hexCharacter?_longer (flags : Flags) (count : Nat) (extended : Longer chars longer) :
    Alike Prod.mk (hexCharacter? flags count chars) (hexCharacter? flags count longer) := by
  have skips := Cursor.skipped_longer flags extended
  have bare := digitsCharacter?_longer flags count skips
  rw [hexCharacter?_eq, hexCharacter?_eq]
  generalize Cursor.skipped flags chars = front at skips bare
  generalize Cursor.skipped flags longer = ahead at skips bare
  rcases skips.starts_or '\x7b' (by decide) with ⟨rest, rfl, rfl⟩ | ⟨alone, further⟩
  · exact bracedCharacter?_alike flags rest
  · split
    · exact absurd rfl (alone _)
    · exact bare

theorem boundary?_of_ne {c : Char} {rest : List Char} (brace : c ≠ '\x7b') :
    boundary? flags (c :: rest) = some (.wordBoundary flags.unicode, c :: rest) := by
  unfold boundary?
  split
  · rename_i same
    exact absurd (List.cons.inj same).1 brace
  · rfl

theorem boundary?_brace {c : Char} {rest inner : List Char}
    (start : Cursor.skipped flags rest = c :: inner) (plain : isBoundaryChar c = false) :
    boundary? flags ('\x7b' :: rest) = some (.wordBoundary flags.unicode, '\x7b' :: rest) := by
  rw [boundary?]
  dsimp only
  rw [start]
  dsimp only
  rw [plain]
  rfl

/-- A boundary is read in front of the signs as at the end. Only where the pattern ends behind the
brace for a special one, the signs make it a usual one, and the brace is left over. -/
theorem boundary?_append (flags : Flags) (chars : List Char) :
    Alike Prod.mk (boundary? flags chars) (boundary? flags (chars ++ anything)) ∨
      boundary? flags chars = none ∧ ∀ condition rest,
        boundary? flags (chars ++ anything) = some (condition, rest) →
          ∃ inner, rest = '\x7b' :: inner ∧ Cursor.skipped flags inner = anything := by
  cases chars with
  | nil => exact .inl (.some _ (.append []))
  | cons c rest =>
    by_cases brace : c = '\x7b'
    · subst brace
      have skips := Cursor.skipped_longer flags (.append rest)
      rcases skips.cases with ⟨first, second | second⟩ | ⟨c, inner, first, second⟩
      · have refused : boundary? flags ('\x7b' :: rest) = none := by
          rw [boundary?, first]
        refine .inr ⟨refused, fun condition behind read => ?_⟩
        rw [List.cons_append, boundary?_brace second (by decide)] at read
        cases read
        exact ⟨_, rfl, second⟩
      · refine .inl ?_
        rw [List.cons_append, boundary?, boundary?, first, second]
        exact .none
      · refine .inl ?_
        cases special : isBoundaryChar c with
        | false =>
          rw [List.cons_append, boundary?_brace first special, boundary?_brace second special]
          exact .some _ (.append _)
        | true =>
          rw [List.cons_append, boundary?, boundary?, first, second]
          dsimp only
          rw [special]
          refine (bracedText?_alike flags.spaced false (c :: inner)).bind
            fun name _ _ extended => ?_
          dsimp only
          split
          · exact .some _ extended
          · exact .some _ extended
          · exact .some _ extended
          · exact .some _ extended
          · exact .none
    · refine .inl ?_
      rw [List.cons_append, boundary?_of_ne brace, boundary?_of_ne brace]
      exact .some _ (.append _)

/-- What is read as an escape at the end of a pattern only in front of the signs: a dot, or a
boundary of words with the brace that it leaves over. -/
inductive Stray (flags : Flags) : List Char → Atom → List Char → Prop
  | dot : Stray flags [] (.character '.') ['*']
  | brace {chars inner : List Char} {condition : Anchor}
      (behind : Cursor.skipped flags inner = anything) :
      Stray flags chars (.anchor condition) ('\x7b' :: inner)

variable [Dialect]

theorem property?_letter {c : Char} {rest : List Char}
    (start : Cursor.skipped flags chars = c :: rest) (slash : c ≠ '\\') (brace : c ≠ '\x7b') :
    property? flags chars = (Dialect.property? (String.ofList [c])).bind fun (set, negated) =>
      some (set, negated, Cursor.skipped flags rest) := by
  unfold property?
  rw [start]
  split
  · rename_i same
    cases same
  · rename_i same
    exact absurd (List.cons.inj same).1 slash
  · rename_i same
    exact absurd (List.cons.inj same).1 brace
  · rename_i same
    cases same
    rfl

theorem property?_longer (flags : Flags) (extended : Longer chars longer) :
    Alike beside (property? flags chars) (property? flags longer) := by
  have skips := Cursor.skipped_longer flags extended
  rcases skips.cases with ⟨first, second | second⟩ | ⟨c, rest, first, second⟩
  · have dot : Dialect.property? (String.ofList ['.']) = none := Dialect.property?_dot
    rw [property?_letter second (by decide) (by decide), dot, property?, first]
    exact .none
  · rw [property?, property?, first, second]
    exact .none
  · by_cases slash : c = '\\'
    · subst slash
      rw [property?, property?, first, second]
      exact .none
    by_cases brace : c = '\x7b'
    · subst brace
      rw [property?, property?, first, second]
      refine (bracedText?_alike flags.spaced false rest).bind fun name _ _ extended => ?_
      dsimp only
      cases Dialect.property? (String.ofList name) with
      | none => exact .none
      | some found => exact .some found extended
    · rw [property?_letter first slash brace, property?_letter second slash brace]
      have rests := Cursor.skipped_longer flags (.append rest)
      cases Dialect.property? (String.ofList [c]) with
      | none => exact .none
      | some found => exact .some found rests

theorem propertyAtom?_append (flags : Flags) (negated : Bool) (chars : List Char) :
    Alike Prod.mk (propertyAtom? flags negated chars)
      (propertyAtom? flags negated (chars ++ anything)) := by
  refine (property?_longer flags (.append chars)).bind fun value _ _ extended => ?_
  split
  · exact .some _ extended
  · exact .none

theorem escape?_append (flags : Flags) (chars : List Char) :
    Alike Prod.mk (escape? flags chars) (escape? flags (chars ++ anything)) ∨
      escape? flags chars = none ∧ ∀ atom rest,
        escape? flags (chars ++ anything) = some (atom, rest) → Stray flags chars atom rest := by
  cases chars with
  | nil =>
    have dot : escape? flags anything = some (.character '.', ['*']) := by
      simp [escape?, anything, letterClass?, letterCharacter?, isEscapable]
    refine .inr ⟨rfl, fun atom rest read => ?_⟩
    rw [List.nil_append, dot] at read
    cases read
    exact .dot
  | cons c rest =>
    have hex (count : Nat) := hexCharacter?_longer flags count (.append rest)
    rw [List.cons_append]
    unfold escape?
    dsimp only
    split
    · exact .inl ((hex 2).map fun _ _ => rfl)
    · exact .inl ((hex 4).map fun _ _ => rfl)
    · exact .inl ((hex 8).map fun _ _ => rfl)
    · exact .inl (propertyAtom?_append flags _ rest)
    · exact .inl (propertyAtom?_append flags _ rest)
    · exact .inl (.some _ (.append rest))
    · exact .inl (.some _ (.append rest))
    · rcases boundary?_append flags rest with alike | ⟨refused, stray⟩
      · exact .inl (alike.map fun _ _ => rfl)
      · refine .inr ⟨by rw [refused]; rfl, fun atom behind read => ?_⟩
        obtain ⟨⟨condition, left⟩, found, same⟩ := Option.map_eq_some_iff.mp read
        obtain ⟨inner, rfl, skips⟩ := stray condition left found
        cases same
        exact .brace skips
    · exact .inl (.some _ (.append rest))
    · exact .inl (.some _ (.append rest))
    · exact .inl (.some _ (.append rest))
    · refine .inl ?_
      split
      · exact .some _ (.append rest)
      · exact .some _ (.append rest)
      · split
        · exact .some _ (.append rest)
        · exact .none

end FleetSearch.Pattern
