import FleetSearch.Proofs.Pattern.Sizes

/-! Patterns between the signs that let them match anywhere in a text, in upper or lower case, and
what these signs make of them. -/

namespace FleetSearch.Pattern

/-- What has been read, if nothing is left. -/
def complete? (read : DeepRegex × Cursor) : Option (DeepRegex × Flags) :=
  if read.2.rest.isEmpty then some (read.1, read.2.flags) else none

/-- The flags of a pattern that is read without regard to case. -/
def caseless : Flags := { anyCase := true }

/-- The signs for any characters, and for no regard to case, in front of a pattern. -/
def leading : List Char := ['(', '?', 'i', ')', '.', '*']

/-- A pattern between the signs. -/
def spliced (chars : List Char) : List Char :=
  leading ++ chars ++ anything

/-- The characters that a dot stands for at first. -/
def dotSet : Charset := .complement (.single '\n')

/-- What the signs around a pattern make of it. A pattern that is refused on its own is accepted
between them only if it ends in a backslash; one that is accepted on its own is refused between them
only if it ends without Unicode, and otherwise is found in the same texts. -/
inductive Between (chars : List Char) :
    Option (DeepRegex × Flags) → Option (DeepRegex × Flags) → Prop
  | refused : Between chars none none
  | slash (whole : DeepRegex) (flags : Flags) (last : ['\\'] <:+ chars) :
      Between chars none (some (whole, flags))
  | bytes (found : DeepRegex) (flags : Flags) (bytes : flags.unicode = false) :
      Between chars (some (found, flags)) none
  | same (found whole : DeepRegex) (flags : Flags) (grown : Grown 4 found whole)
      (agrees : ∀ text, whole.regex.matchesWithin text = found.regex.matchesWithin text) :
      Between chars (some (found, flags)) (some (whole, flags))

theorem unicode_of_dotSet? {flags : Flags} (dot : dotSet? flags = none) :
    flags.unicode = false := by
  unfold dotSet? at dot
  split at dot
  · rename_i bytes
    simpa using bytes
  · split at dot
    · cases dot
    · split at dot <;> cases dot

theorem matchesWithin_stretched (set : Charset) (done : Option DeepRegex) (parts : Parts)
    (text : String) :
    (finished done (some (anyNumber set) :: parts)).regex.matchesWithin text =
      (finished done parts).regex.matchesWithin text := by
  rw [Bool.eq_iff_iff, Regex.matchesWithin_iff, Regex.matchesWithin_iff]
  simp only [starts_stretched]

variable [Dialect]

/-- What a whole pattern spells when it is read under some flags, however deep that is, and the
flags at its end. -/
def spelled? (flags : Flags) (chars : List Char) : Option (DeepRegex × Flags) :=
  (alternatives? none [] (2 * chars.length + 2) { rest := chars, flags }).bind complete?

/-- The expression that a whole pattern spells when it is read under some flags. -/
def Regex.readAs? (flags : Flags) (pattern : String) : Option Regex :=
  (spelled? flags pattern.toList).bind fun (found, _) =>
    if found.depth ≤ depthLimit then some found.regex else none

theorem Regex.readAs?_eq_some_iff {flags : Flags} {pattern : String} {regex : Regex} :
    Regex.readAs? flags pattern = some regex ↔ ∃ found ending,
      spelled? flags pattern.toList = some (found, ending) ∧ found.depth ≤ depthLimit ∧
        found.regex = regex := by
  rw [readAs?, Option.bind_eq_some_iff]
  constructor
  · rintro ⟨⟨found, ending⟩, read, fits⟩
    dsimp only at fits
    split at fits
    · rename_i shallow
      exact ⟨found, ending, read, shallow, Option.some.inj fits⟩
    · cases fits
  · rintro ⟨found, ending, read, shallow, rfl⟩
    exact ⟨(found, ending), read, if_pos shallow⟩

theorem Regex.read?_eq (pattern : String) : Regex.read? pattern = Regex.readAs? {} pattern := by
  unfold read? readAs? spelled?
  dsimp only
  cases alternatives? none [] (2 * pattern.toList.length + 2) { rest := pattern.toList } with
  | none => rfl
  | some found =>
    obtain ⟨found, cursor⟩ := found
    rw [Option.bind_eq_bind, Option.bind_some, Option.bind_some]
    unfold complete?
    dsimp only
    cases cursor.rest.isEmpty with
    | false => rfl
    | true =>
      rw [Bool.true_and]
      exact if_congr decide_eq_true_iff rfl rfl

theorem alternatives?_leading (fuel : Nat) (chars : List Char) :
    alternatives? none [] (fuel + 4) { rest := leading ++ chars } =
      alternatives? none [some (anyNumber dotSet), none] fuel
        { rest := skipLazy chars, flags := caseless } := by
  have opening : opening? { rest := '?' :: 'i' :: ')' :: '.' :: '*' :: chars } =
      some (.flags caseless, { rest := '.' :: '*' :: chars }) := by
    rw [opening?_eq]
    rfl
  have star : alternatives? none [some { regex := .one dotSet }, none] (fuel + 1)
      { rest := '*' :: chars, flags := caseless } =
        alternatives? none [some (anyNumber dotSet), none] fuel
          { rest := skipLazy chars, flags := caseless } := by
    rw [alternatives?_cons (Cursor.skipped_of_solid (by decide) (by decide)),
      proceed?_repeats (by decide)]
    rfl
  rw [leading, List.cons_append, alternatives?_cons rfl]
  show group? none [] (fuel + 3) { rest := '?' :: 'i' :: ')' :: '.' :: '*' :: chars } = _
  rw [group?_flags opening, alternatives?_cons rfl, proceed?_part (by decide)]
  exact star

theorem spelled?_spliced_nil : spelled? {} (spliced []) =
    some (finished none [some (anyNumber dotSet), some (anyNumber dotSet), none], caseless) := by
  have around : alternatives? none [] (14 + 4) { rest := leading ++ anything } =
      some (finished none [some (anyNumber dotSet), some (anyNumber dotSet), none],
        { rest := [], flags := caseless }) := by
    rw [alternatives?_leading]
    exact alternatives?_anything rfl rfl
  rw [spelled?]
  show (alternatives? none [] (14 + 4) { rest := leading ++ anything }).bind complete? = _
  rw [around]
  rfl

theorem Regex.read?_anything :
    ∃ found, Regex.read? "(?i).*.*" = some found ∧ found.mayBeEmpty = true := by
  rw [read?_eq]
  refine ⟨_, readAs?_eq_some_iff.mpr ⟨_, _, spelled?_spliced_nil, ?_, rfl⟩, ?_⟩
  · decide
  · decide

theorem spelled?_repeats {flags : Flags} {c : Char} {rest : List Char}
    (start : Cursor.skipped flags (c :: rest) = c :: rest) (again : repeats c = true) :
    spelled? flags (c :: rest) = none := by
  unfold spelled?
  rw [alternatives?_cons start, proceed?_repeats again]
  cases times? flags c rest with
  | none => rfl
  | some found => rfl

theorem between_spliced {chars : List Char}
    (plain : ∀ c rest, chars = c :: rest → repeats c = false) :
    Between chars (spelled? caseless chars) (spelled? {} (spliced chars)) := by
  have lazy : skipLazy (chars ++ anything) = chars ++ anything := by
    cases chars with
    | nil => rfl
    | cons c rest =>
      have mark := plain c rest rfl
      unfold skipLazy
      split
      · rename_i same
        cases same
        cases mark
      · rfl
  have bare : Unrepeated none [] caseless (chars ++ anything) := by
    rintro - c rest start
    cases chars with
    | nil =>
      cases start
      rfl
    | cons d chars =>
      cases start
      exact plain c chars rfl
  have whole : spelled? {} (spliced chars) =
      (alternatives? none [some (anyNumber dotSet), none] (2 * chars.length + 14)
        { rest := chars ++ anything, flags := caseless }).bind complete? := by
    have fuel : 2 * (spliced chars).length + 2 = 2 * chars.length + 14 + 4 := by
      simp [spliced, leading, anything]
      omega
    rw [spelled?, fuel, spliced, List.append_assoc, alternatives?_leading, lazy]
  have front := @(headed_readings (anyNumber dotSet) (2 * chars.length + 14)).1
    none none [] [some (anyNumber dotSet), none] (chars ++ anything) caseless [] (.first []) bare
  have back := @(tailed (2 * chars.length + 2)).1
    (2 * chars.length + 14) none [] chars (chars ++ anything) caseless []
    (.append chars) (by omega) (by omega)
  rw [whole, spelled?]
  generalize alternatives? none [] (2 * chars.length + 2) { rest := chars, flags := caseless } =
    alone at back
  generalize alternatives? none [] (2 * chars.length + 14)
    { rest := chars ++ anything, flags := caseless } = behind at back front
  generalize alternatives? none [some (anyNumber dotSet), none] (2 * chars.length + 14)
    { rest := chars ++ anything, flags := caseless } = around at front
  cases back with
  | refused =>
    cases front
    exact .refused
  | closed found rest flags names =>
    cases front
    exact .refused
  | comment found flags names =>
    cases front with
    | read same =>
      have grown : Grown (2 + 2) _ _ := same.grown.trans (.refl _)
      exact .same found _ flags grown same.matchesWithin
  | stretched done parts flags names set dot =>
    cases front with
    | read same =>
      have stretch := grown_stretched set done parts
      exact .same _ _ flags (stretch.trans same.grown) fun text =>
        (same.matchesWithin text).trans (matchesWithin_stretched set done parts text)
  | bytes found flags names dot =>
    cases front
    exact .bytes found flags (unicode_of_dotSet? dot)
  | slash found flags names last =>
    cases front
    exact .slash _ flags last

end FleetSearch.Pattern
