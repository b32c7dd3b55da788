import Mathlib.Data.List.TakeDrop
import FleetSearch.Pattern.Read

/-! What is left of a pattern when a part of it has been read is always an end of what there was. -/

namespace FleetSearch.Pattern

variable {flags : Flags} {chars rest : List Char}

namespace Cursor

theorem behindSpace_suffix (inComment : Bool) (chars : List Char) :
    behindSpace inComment chars <:+ chars := by
  fun_induction behindSpace inComment chars with
  | case1 => exact List.suffix_refl _
  | case2 c rest ih => exact ih.trans (List.suffix_cons _ _)
  | case3 _ c rest _ _ ih => exact ih.trans (List.suffix_cons _ _)
  | case4 _ c rest _ _ _ ih => exact ih.trans (List.suffix_cons _ _)
  | case5 => exact List.suffix_refl _

theorem skipped_suffix (flags : Flags) (chars : List Char) : skipped flags chars <:+ chars := by
  unfold skipped
  split
  · exact behindSpace_suffix false chars
  · exact List.suffix_refl _

theorem skipSpace_suffix (cursor : Cursor) : cursor.skipSpace.rest <:+ cursor.rest := by
  unfold skipSpace
  split
  · exact behindSpace_suffix false cursor.rest
  · exact List.suffix_refl _

end Cursor

theorem suffix_of_cons {c : Char} (shorter : rest <:+ chars) : rest <:+ c :: chars :=
  shorter.trans (List.suffix_cons c chars)

theorem cutChars_suffix {separator : Char} {front : List Char}
    (cut : Text.cutChars separator chars = some (front, rest)) : rest <:+ chars := by
  induction chars generalizing front with
  | nil => cases cut
  | cons c behind ih =>
    rw [Text.cutChars] at cut
    split at cut
    · cases cut
      exact List.suffix_cons _ _
    · obtain ⟨⟨before, after⟩, cut, same⟩ := Option.map_eq_some_iff.mp cut
      cases same
      exact suffix_of_cons (ih cut)

theorem takeDigits_suffix (flags : Flags) (count : Nat) (chars : List Char) :
    (takeDigits flags count chars).2 <:+ chars := by
  fun_induction takeDigits flags count chars with
  | case1 => exact List.suffix_refl _
  | case2 => exact List.suffix_refl _
  | case3 count c rest digits behind taken ih =>
    rw [taken] at ih
    exact suffix_of_cons (ih.trans (Cursor.skipped_suffix flags rest))

theorem bracedText?_suffix {spaced inComment : Bool} {text : List Char}
    (read : bracedText? spaced inComment chars = some (text, rest)) : rest <:+ chars := by
  induction chars generalizing inComment text with
  | nil => cases read
  | cons c behind ih =>
    rw [bracedText?] at read
    split at read
    · exact suffix_of_cons (ih read)
    · split at read
      · cases read
        exact List.suffix_cons _ _
      · split at read
        · exact suffix_of_cons (ih read)
        · split at read
          · exact suffix_of_cons (ih read)
          · obtain ⟨⟨before, after⟩, inner, same⟩ := Option.map_eq_some_iff.mp read
            cases same
            exact suffix_of_cons (ih inner)

theorem hexCharacter?_suffix {count : Nat} {c : Char}
    (read : hexCharacter? flags count chars = some (c, rest)) : rest <:+ chars := by
  have skips := Cursor.skipped_suffix flags chars
  unfold hexCharacter? at read
  split at read
  · rename_i behind start
    rw [start] at skips
    obtain ⟨⟨digits, after⟩, cut, read⟩ := Option.bind_eq_some_iff.mp read
    obtain ⟨found, _, same⟩ := Option.bind_eq_some_iff.mp read
    cases same
    exact (Cursor.skipped_suffix flags after).trans
      ((bracedText?_suffix cut).trans ((List.suffix_cons _ _).trans skips))
  · obtain ⟨found, _, read⟩ := Option.bind_eq_some_iff.mp read
    split at read
    · cases read
      exact (takeDigits_suffix flags count _).trans skips
    · cases read

theorem boundary?_suffix {condition : Anchor}
    (read : boundary? flags chars = some (condition, rest)) : rest <:+ chars := by
  unfold boundary? at read
  split at read
  · rename_i inner
    dsimp only at read
    split at read
    · cases read
    · split at read
      · cases read
        exact List.suffix_refl _
      · obtain ⟨⟨name, after⟩, cut, read⟩ := Option.bind_eq_some_iff.mp read
        have kept : rest = after := by
          dsimp only at read
          split at read <;> first | cases read; rfl | cases read
        rw [kept]
        exact suffix_of_cons ((bracedText?_suffix cut).trans (Cursor.skipped_suffix flags inner))
  · cases read
    exact List.suffix_refl _

theorem leadingHyphens_suffix (spaced inComment : Bool) (count : Nat) (chars : List Char) :
    (leadingHyphens spaced inComment count chars).2 <:+ chars := by
  fun_induction leadingHyphens spaced inComment count chars with
  | case1 => exact List.suffix_refl _
  | case2 _ c rest ih => exact suffix_of_cons ih
  | case3 _ _ c rest _ _ ih => exact suffix_of_cons ih
  | case4 _ _ c rest _ _ _ ih => exact suffix_of_cons ih
  | case5 _ _ c rest _ _ _ _ ih => exact suffix_of_cons ih
  | case6 => exact List.suffix_refl _

/-- Whether a class is negated, and what follows the caret for that. -/
def caret (flags : Flags) (chars : List Char) : Bool × List Char :=
  match Cursor.skipped flags chars with
  | '^' :: rest => (true, Cursor.skipped flags rest)
  | rest => (false, rest)

/-- A class behind its hyphens, in which a closing bracket stands for itself if there are none. -/
def behindHyphens (flags : Flags) (negated : Bool) (hyphens : Nat) (chars : List Char) :
    Bracket × List Char :=
  if hyphens > 0 then ({ negated, parts := List.replicate hyphens ⟨.single '-', 0⟩ }, chars)
  else match chars with
    | ']' :: rest => ({ negated, parts := [⟨.single ']', 0⟩] }, Cursor.skipped flags rest)
    | _ => ({ negated }, chars)

theorem bracketStart_eq (flags : Flags) (chars : List Char) : bracketStart flags chars =
    let (negated, rest) := caret flags chars
    let (hyphens, rest) := leadingHyphens flags.spaced false 0 rest
    behindHyphens flags negated hyphens rest :=
  rfl

theorem bracketStart_suffix (flags : Flags) (chars : List Char) :
    (bracketStart flags chars).2 <:+ chars := by
  have start : (caret flags chars).2 <:+ chars := by
    have skips := Cursor.skipped_suffix flags chars
    unfold caret
    split
    · rename_i rest same
      rw [same] at skips
      exact (Cursor.skipped_suffix flags rest).trans ((List.suffix_cons _ _).trans skips)
    · exact skips
  have hyphens := (leadingHyphens_suffix flags.spaced false 0 (caret flags chars).2).trans start
  rw [bracketStart_eq]
  dsimp only
  unfold behindHyphens
  split
  · exact hyphens
  · split
    · rename_i rest same
      rw [same] at hyphens
      exact (Cursor.skipped_suffix flags rest).trans ((List.suffix_cons _ _).trans hyphens)
    · exact hyphens

theorem asciiClass?_suffix {set : Charset} {negated : Bool}
    (read : asciiClass? chars = some (set, negated, rest)) : rest <:+ chars := by
  unfold asciiClass? at read
  split at read
  · rename_i behind
    have caret : (match behind with
        | '^' :: rest => (true, rest)
        | _ => (false, behind)).2 <:+ behind := by
      split
      · exact List.suffix_cons _ _
      · exact List.suffix_refl _
    obtain ⟨⟨name, after⟩, cut, read⟩ := Option.bind_eq_some_iff.mp read
    have inner := (cutChars_suffix cut).trans caret
    dsimp only at read
    split at read
    · obtain ⟨found, _, same⟩ := Option.bind_eq_some_iff.mp read
      cases same
      exact suffix_of_cons ((List.suffix_cons _ _).trans inner)
    · cases read
  · cases read

theorem single_suffix {atom : Atom} {set : Charset}
    (read : bracketPart?.single flags atom chars = some (set, rest)) : rest = chars := by
  unfold bracketPart?.single at read
  split at read
  · split at read
    · cases read
      rfl
    · cases read
  · cases read
    rfl
  · cases read

theorem flagLetters?_suffix {found : Flags} {seen : List Char} {value afterHyphen any : Bool}
    (read : flagLetters? flags seen value afterHyphen chars = some (found, any, rest)) :
    rest <:+ chars := by
  fun_induction flagLetters? flags seen value afterHyphen chars with
  | case1 => cases read
  | case2 => cases read
  | case3 =>
    cases read
    exact List.suffix_refl _
  | case4 _ _ _ _ _ ih => exact suffix_of_cons (ih read)
  | case5 => cases read
  | case6 => cases read
  | case7 _ _ _ _ _ _ _ _ _ _ _ ih => exact suffix_of_cons (ih read)
  | case8 => cases read

theorem groupName?_suffix {name : String} (read : groupName? chars = some (name, rest)) :
    rest <:+ chars := by
  obtain ⟨⟨letters, after⟩, cut, read⟩ := Option.bind_eq_some_iff.mp read
  dsimp only at read
  split at read
  · cases read
  · split at read
    · cases read
      exact cutChars_suffix cut
    · cases read

theorem opening?_suffix {cursor inner : Cursor} {opening : Opening}
    (read : opening? cursor = some (opening, inner)) : inner.rest <:+ cursor.rest := by
  have skips := cursor.skipSpace_suffix
  unfold opening? at read
  extract_lets start named at read
  have name {chars : List Char} (read : named chars = some (opening, inner)) :
      inner.rest <:+ chars := by
    obtain ⟨⟨name, after⟩, found, read⟩ := Option.bind_eq_some_iff.mp read
    dsimp only at read
    split at read
    · cases read
    · cases read
      exact groupName?_suffix found
  split at read
  · cases read
  split at read
  · rename_i rest same
    have inner : rest <:+ start.rest := same ▸ ⟨['?', 'P', '<'], rfl⟩
    exact (name read).trans (inner.trans skips)
  · rename_i rest same
    have inner : rest <:+ start.rest := same ▸ ⟨['?', '<'], rfl⟩
    exact (name read).trans (inner.trans skips)
  · rename_i rest _ _ same
    have inner := (List.suffix_cons _ _).trans (same ▸ skips)
    obtain ⟨⟨flags, any, after⟩, letters, read⟩ := Option.bind_eq_some_iff.mp read
    have further := (flagLetters?_suffix letters).trans inner
    dsimp only at read
    split at read
    · cases read
      exact (List.suffix_cons _ _).trans further
    · split at read
      · cases read
        exact (List.suffix_cons _ _).trans further
      · cases read
    · cases read
  · obtain ⟨_, rfl⟩ := Prod.mk.inj (Option.some.inj read)
    exact skips

theorem leadingDigits_suffix (spaced inComment : Bool) (chars : List Char) :
    (leadingDigits spaced inComment chars).2 <:+ chars := by
  fun_induction leadingDigits spaced inComment chars with
  | case1 => exact List.suffix_refl _
  | case2 c rest ih => exact suffix_of_cons ih
  | case3 _ c rest _ _ digits behind taken ih =>
    rw [taken] at ih
    exact suffix_of_cons ih
  | case4 _ c rest _ _ _ ih => exact suffix_of_cons ih
  | case5 _ c rest _ _ _ _ ih => exact suffix_of_cons ih
  | case6 => exact List.suffix_refl _

theorem countNumber?_suffix {value : Nat} (read : countNumber? flags chars = some (value, rest)) :
    rest <:+ chars := by
  obtain ⟨number, _, read⟩ := Option.bind_eq_some_iff.mp read
  split at read
  · cases read
    exact (List.dropWhile_suffix _).trans
      ((leadingDigits_suffix _ _ _).trans (List.dropWhile_suffix _))
  · cases read

theorem count?_suffix {least : Nat} {most : Option Nat}
    (read : count? flags chars = some (least, most, rest)) : rest <:+ chars := by
  have skips := Cursor.skipped_suffix flags
  obtain ⟨⟨low, after⟩, number, read⟩ := Option.bind_eq_some_iff.mp read
  have inner := (countNumber?_suffix number).trans (skips chars)
  dsimp only at read
  split at read
  · cases read
    exact (List.suffix_cons _ _).trans inner
  · rename_i behind
    have further := (skips behind).trans ((List.suffix_cons _ _).trans inner)
    split at read
    · rename_i last same
      cases read
      exact (List.suffix_cons _ _).trans (same ▸ further)
    · obtain ⟨⟨high, after⟩, number, read⟩ := Option.bind_eq_some_iff.mp read
      have final := (countNumber?_suffix number).trans further
      dsimp only at read
      split at read
      · split at read
        · cases read
          exact (List.suffix_cons _ _).trans final
        · cases read
      · cases read
  · cases read

theorem skipLazy_suffix (chars : List Char) : skipLazy chars <:+ chars := by
  unfold skipLazy
  split
  · exact List.suffix_cons _ _
  · exact List.suffix_refl _

variable [Dialect]

theorem property?_suffix {set : Charset} {negated : Bool}
    (read : property? flags chars = some (set, negated, rest)) : rest <:+ chars := by
  have skips := Cursor.skipped_suffix flags chars
  unfold property? at read
  split at read
  · cases read
  · cases read
  · rename_i behind start
    rw [start] at skips
    obtain ⟨⟨name, after⟩, cut, read⟩ := Option.bind_eq_some_iff.mp read
    obtain ⟨found, _, same⟩ := Option.bind_eq_some_iff.mp read
    cases same
    exact (bracedText?_suffix cut).trans ((List.suffix_cons _ _).trans skips)
  · rename_i c behind _ _ start
    rw [start] at skips
    obtain ⟨found, _, same⟩ := Option.bind_eq_some_iff.mp read
    cases same
    exact (Cursor.skipped_suffix flags behind).trans ((List.suffix_cons _ _).trans skips)

/-- A class by a property, behind the letter that may negate it. -/
def propertyAtom? (flags : Flags) (negated : Bool) (chars : List Char) :
    Option (Atom × List Char) :=
  (property? flags chars).bind fun found =>
    if flags.unicode then
      some (.set (foldAndNegate flags (negated != found.2.1) found.1), found.2.2)
    else none

theorem propertyAtom?_suffix {negated : Bool} {atom : Atom}
    (read : propertyAtom? flags negated chars = some (atom, rest)) : rest <:+ chars := by
  obtain ⟨_, found, read⟩ := Option.bind_eq_some_iff.mp read
  split at read
  · cases read
    exact property?_suffix found
  · cases read

theorem escape?_suffix {atom : Atom} (read : escape? flags chars = some (atom, rest)) :
    rest <:+ chars := by
  cases chars with
  | nil => cases read
  | cons c behind =>
    refine suffix_of_cons ?_
    have hex {count : Nat} (read : (hexCharacter? flags count behind).map
        (fun found => (Atom.character found.1, found.2)) = some (atom, rest)) :
        rest <:+ behind := by
      obtain ⟨_, found, same⟩ := Option.map_eq_some_iff.mp read
      cases same
      exact hexCharacter?_suffix found
    unfold escape? at read
    dsimp only at read
    split at read
    · exact hex read
    · exact hex read
    · exact hex read
    · exact propertyAtom?_suffix read
    · exact propertyAtom?_suffix read
    · cases read
      exact List.suffix_refl _
    · cases read
      exact List.suffix_refl _
    · obtain ⟨_, found, same⟩ := Option.map_eq_some_iff.mp read
      cases same
      exact boundary?_suffix found
    · cases read
      exact List.suffix_refl _
    · cases read
      exact List.suffix_refl _
    · cases read
      exact List.suffix_refl _
    · split at read
      · cases read
        exact List.suffix_refl _
      · cases read
        exact List.suffix_refl _
      · split at read
        · cases read
          exact List.suffix_refl _
        · cases read

theorem bracketAtom?_behind {atom : Atom} (read : bracketAtom? flags chars = some (atom, rest)) :
    ∃ c behind, chars = c :: behind ∧ rest <:+ behind := by
  unfold bracketAtom? at read
  split at read
  · cases read
  · exact ⟨_, _, rfl, escape?_suffix read⟩
  · cases read
    exact ⟨_, _, rfl, List.suffix_refl _⟩

theorem bracketAtom?_suffix {atom : Atom} (read : bracketAtom? flags chars = some (atom, rest)) :
    rest <:+ chars := by
  obtain ⟨c, behind, rfl, inner⟩ := bracketAtom?_behind read
  exact suffix_of_cons inner

/-- A part of a class is one side of a range at least. -/
theorem bracketPart?_behind {set : Charset} (read : bracketPart? flags chars = some (set, rest)) :
    ∃ first behind, bracketAtom? flags chars = some (first, behind) ∧ rest <:+ behind := by
  have skips := Cursor.skipped_suffix flags
  obtain ⟨⟨first, after⟩, atom, read⟩ := Option.bind_eq_some_iff.mp read
  refine ⟨first, after, atom, ?_⟩
  have inner := skips after
  dsimp only at read
  split at read
  · cases read
  · rename_i behind same
    rw [same] at inner
    split at read
    · rw [single_suffix read]
      exact same ▸ inner
    · rw [single_suffix read]
      exact same ▸ inner
    · cases read
    · obtain ⟨⟨last, end_⟩, other, read⟩ := Option.bind_eq_some_iff.mp read
      have further := (bracketAtom?_suffix other).trans
        ((skips behind).trans ((List.suffix_cons _ _).trans inner))
      dsimp only at read
      split at read
      · split at read
        · cases read
          exact further
        · cases read
      · cases read
  · rw [single_suffix read]
    exact inner

theorem bracketPart?_suffix {set : Charset} (read : bracketPart? flags chars = some (set, rest)) :
    rest <:+ chars := by
  obtain ⟨first, behind, atom, inner⟩ := bracketPart?_behind read
  exact inner.trans (bracketAtom?_suffix atom)

theorem bracketPart?_shorter {set : Charset} (read : bracketPart? flags chars = some (set, rest)) :
    rest.length < chars.length := by
  obtain ⟨first, behind, atom, inner⟩ := bracketPart?_behind read
  obtain ⟨c, after, rfl, further⟩ := bracketAtom?_behind atom
  exact Nat.lt_succ_of_le (inner.trans further).length_le

theorem bracketRest?_suffix {bracket : Bracket} {outer : List Bracket} {fuel : Nat} {set : DeepSet}
    (read : bracketRest? flags bracket outer fuel chars = some (set, rest)) : rest <:+ chars := by
  induction fuel generalizing bracket outer chars with
  | zero => cases read
  | succ fuel ih =>
    have skips := Cursor.skipped_suffix flags chars
    unfold bracketRest? at read
    split at read
    · cases read
    · rename_i behind start
      have inner := (List.suffix_cons _ _).trans (start ▸ skips)
      split at read
      · rename_i set negated after ascii
        obtain ⟨set, _, read⟩ := Option.bind_eq_some_iff.mp read
        exact (ih read).trans ((asciiClass?_suffix ascii).trans inner)
      · exact (ih read).trans ((bracketStart_suffix flags behind).trans inner)
    · rename_i behind start
      have inner := (List.suffix_cons _ _).trans (start ▸ skips)
      obtain ⟨finished, _, read⟩ := Option.bind_eq_some_iff.mp read
      split at read
      · cases read
        exact inner
      · exact (ih read).trans inner
    · rename_i behind start
      exact (ih read).trans
        ((List.suffix_cons _ _).trans ((List.suffix_cons _ _).trans (start ▸ skips)))
    · rename_i behind start
      exact (ih read).trans
        ((List.suffix_cons _ _).trans ((List.suffix_cons _ _).trans (start ▸ skips)))
    · rename_i behind start
      exact (ih read).trans
        ((List.suffix_cons _ _).trans ((List.suffix_cons _ _).trans (start ▸ skips)))
    · obtain ⟨⟨found, after⟩, part, read⟩ := Option.bind_eq_some_iff.mp read
      exact (ih read).trans ((bracketPart?_suffix part).trans skips)

theorem bracketClass?_suffix {set : DeepSet}
    (read : bracketClass? flags chars = some (set, rest)) : rest <:+ chars :=
  (bracketRest?_suffix read).trans (bracketStart_suffix flags chars)

end FleetSearch.Pattern
