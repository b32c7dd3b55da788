import FleetSearch.Proofs.Text.Digits
import FleetSearch.Proofs.Text.Separated
import FleetSearch.Text.Quoted
import FleetSearch.Text.Split

/-! Quoted texts in messages can be read again: what stands between the quotes, and where it
ends. -/

namespace FleetSearch.Text

theorem cutChars_append {separator : Char} {before : List Char} (apart : separator ∉ before)
    (after : List Char) : cutChars separator (before ++ separator :: after) =
      some (before, after) := by
  induction before with
  | nil => simp [cutChars]
  | cons c before ih =>
    have ⟨different, apart⟩ : separator ≠ c ∧ separator ∉ before := by simpa using apart
    simp [cutChars, Ne.symm different, ih apart]

theorem cutChars_of_notMem {separator : Char} {chars : List Char} (apart : separator ∉ chars) :
    cutChars separator chars = none := by
  induction chars with
  | nil => rfl
  | cons c rest ih =>
    have ⟨different, apart⟩ : separator ≠ c ∧ separator ∉ rest := by simpa using apart
    simp [cutChars, Ne.symm different, ih apart]

/-- The character that a short escape stands for. -/
def unescape : Char → Char
  | '0' => '\x00'
  | 't' => '\t'
  | 'n' => '\n'
  | 'r' => '\r'
  | c => c

/-- The first character of a quoted text, and what is quoted behind it. -/
def unquoteChar? : List Char → Option (Char × List Char)
  | [] => none
  | '\\' :: 'u' :: '\x7b' :: rest => do
    let (code, behind) ← cutChars '\x7d' rest
    let value ← natural? 16 code
    some (Char.ofNat value, behind)
  | '\\' :: c :: rest => some (unescape c, rest)
  | c :: rest => some (c, rest)

theorem unquoteChar?_codeEscape (c : Char) (rest : List Char) :
    unquoteChar? (codeEscape c ++ rest) = some (c, rest) := by
  have code : '\x7d' ∉ digits 16 c.toNat := by
    intro member
    obtain ⟨digit, small, same⟩ := exists_digitChar_of_mem (by decide) member
    have other : ∀ digit < 16, '\x7d' ≠ digitChar digit := by decide
    exact other digit small same
  have cut := cutChars_append code rest
  simp [codeEscape, unquoteChar?, cut, natural?_digits]

/-- A character is quoted so that it can be read again, whatever follows. -/
theorem unquoteChar?_quoteChar (c : Char) (rest : List Char) :
    unquoteChar? (quoteChar c ++ rest) = some (c, rest) := by
  unfold quoteChar
  split
  · rfl
  · rfl
  · rfl
  · rfl
  · rfl
  · rfl
  · rename_i slash
    have plain : unquoteChar? ([c] ++ rest) = some (c, rest) := by
      rw [List.singleton_append, unquoteChar?]
      · exact fun _ same _ => slash same
      · exact fun _ _ same _ => slash same
    split
    · exact plain
    · split
      · exact unquoteChar?_codeEscape c rest
      · exact plain

theorem quoteChar_ne_quote (c : Char) (rest other : List Char) :
    quoteChar c ++ rest ≠ '"' :: other := by
  unfold quoteChar
  split
  any_goals exact fun same => absurd (List.cons.inj same).1 (by decide)
  rename_i quote _
  have plain : [c] ++ rest ≠ '"' :: other := fun same => quote (List.cons.inj same).1
  split
  · exact plain
  · split
    · exact fun same => absurd (List.cons.inj same).1 (by decide)
    · exact plain

/-- A quoted text is told from what follows it. -/
theorem quote_append_inj {first second back behind : String}
    (same : quote first ++ back = quote second ++ behind) : first = second ∧ back = behind := by
  have chars : first.toList.flatMap quoteChar ++ '"' :: back.toList =
      second.toList.flatMap quoteChar ++ '"' :: behind.toList := by
    simpa [quote] using congrArg String.toList same
  have told : ∀ a b rest other, quoteChar a ++ rest = quoteChar b ++ other →
      a = b ∧ rest = other := by
    intro a b rest other spelled
    have read := congrArg unquoteChar? spelled
    rw [unquoteChar?_quoteChar, unquoteChar?_quoteChar] at read
    exact Prod.mk.inj (Option.some.inj read)
  have ⟨texts, backs⟩ := flatMap_cancel told quoteChar_ne_quote chars
  exact ⟨String.toList_inj.mp texts, String.toList_inj.mp backs⟩

end FleetSearch.Text
