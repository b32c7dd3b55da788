import FleetSearch.Proofs.Json.Numerals

/-! Strings as they are written and read in JSON: every character is written so that it reads back,
as itself, by a short escape, or by its number. -/

namespace FleetSearch.Json

/-- What a character is read as. -/
def Piece.Spells (c : Char) : Piece → Prop
  | .char value => value = c
  | .unit code => code = c.toNat ∧ code < 32

theorem unitCode?_fourDigits {code : Nat} (control : code < 32) :
    ∃ a b c d, fourDigits code = [a, b, c, d] ∧ unitCode? a b c d = some code := by
  have all : ∀ code < 32, (fourDigits code).length = 4 ∧
      Text.natural? 16 (fourDigits code) = some code := by decide +kernel
  obtain ⟨length, read⟩ := all code control
  match written : fourDigits code, length with
  | [a, b, c, d], _ => exact ⟨a, b, c, d, rfl, by rwa [written] at read⟩

/-- A character as it is written reads as one part of a string. -/
theorem pieces?_escapeChar (c : Char) {rest tail : List Char} {pieces : List Piece}
    (read : pieces? rest = some (pieces, tail)) :
    ∃ piece, Piece.Spells c piece ∧
      pieces? (escapeChar c ++ rest) = some (piece :: pieces, tail) := by
  unfold escapeChar
  split
  · exact ⟨.char '"', rfl, by simp [pieces?, escaped?, read]⟩
  · exact ⟨.char '\\', rfl, by simp [pieces?, escaped?, read]⟩
  · exact ⟨.char '\n', rfl, by simp [pieces?, escaped?, read]⟩
  · exact ⟨.char '\r', rfl, by simp [pieces?, escaped?, read]⟩
  · exact ⟨.char '\t', rfl, by simp [pieces?, escaped?, read]⟩
  · exact ⟨.char '\x08', rfl, by simp [pieces?, escaped?, read]⟩
  · exact ⟨.char '\x0c', rfl, by simp [pieces?, escaped?, read]⟩
  · rename_i quote slash _ _ _ _ _
    by_cases control : c.toNat < 32
    · obtain ⟨x, y, z, w, written, code⟩ := unitCode?_fourDigits control
      refine ⟨.unit c.toNat, ⟨rfl, control⟩, ?_⟩
      simp [control, written, pieces?, code, read]
    · refine ⟨.char c, rfl, ?_⟩
      rw [if_neg control, List.singleton_append]
      rw [pieces?]
      · simp [control, read]
      · exact quote
      · exact fun _ _ _ _ _ same _ => slash same
      · exact fun _ _ same _ => slash same

theorem characters?_cons {c : Char} {piece : Piece} {pieces : List Piece} {chars : List Char}
    (spells : piece.Spells c) (spelled : characters? pieces = some chars) :
    characters? (piece :: pieces) = some (c :: chars) := by
  cases piece with
  | char value =>
    obtain rfl : value = c := spells
    simp [characters?, spelled]
  | unit code =>
    obtain ⟨rfl, control⟩ := spells
    have high : isHighHalf c.toNat = false := by simp [isHighHalf]; omega
    have low : isLowHalf c.toNat = false := by simp [isLowHalf]; omega
    have back : Char.ofNat c.toNat = c := Char.ofNat_toNat c
    cases pieces with
    | nil => simp_all [characters?]
    | cons next others => cases next <;> simp_all [characters?]

theorem pieces?_flatMap (chars rest : List Char) :
    ∃ pieces, pieces? (chars.flatMap escapeChar ++ '"' :: rest) = some (pieces, rest) ∧
      characters? pieces = some chars := by
  induction chars with
  | nil => exact ⟨[], by simp [pieces?], rfl⟩
  | cons c chars ih =>
    obtain ⟨pieces, read, spelled⟩ := ih
    obtain ⟨piece, spells, first⟩ := pieces?_escapeChar c read
    refine ⟨piece :: pieces, ?_, characters?_cons spells spelled⟩
    rw [List.flatMap_cons, List.append_assoc, first]

theorem text?_writeString (text : String) (rest : List Char) :
    ∃ behind, writeString text ++ rest = '"' :: behind ∧
      text? behind = some (some text, rest) := by
  obtain ⟨pieces, read, spelled⟩ := pieces?_flatMap text.toList rest
  refine ⟨text.toList.flatMap escapeChar ++ '"' :: rest, by simp [writeString], ?_⟩
  simp [text?, read, spelled]

end FleetSearch.Json
