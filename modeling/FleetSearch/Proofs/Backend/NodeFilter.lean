import FleetSearch.Proofs.Backend.ConsulKeys
import FleetSearch.Proofs.Text.Quoted

/-! The filter for the nodes of a catalog holds the pattern as a quoted literal. No pattern gets out
of its quotes: the literal ends where the filter does, and what it says is the pattern. -/

namespace FleetSearch

namespace Text

/-- What a literal says behind its opening quote, and what stands behind its closing quote. A
backslash makes the character behind it literal. -/
def literal? : List Char → Option (List Char × List Char)
  | [] => none
  | '"' :: rest => some ([], rest)
  | ['\\'] => none
  | '\\' :: c :: rest => (literal? rest).map (Prod.map (c :: ·) id)
  | c :: rest => (literal? rest).map (Prod.map (c :: ·) id)

/-- Characters with others in the place of one of them, wherever it stands. -/
def replaced (old : Char) (new chars : List Char) : List Char :=
  chars.flatMap fun c => if c = old then new else [c]

variable {chars text behind short : List Char} {c : Char}

theorem literal?_plain (quote : c ≠ '"') (slash : c ≠ '\\') (rest : List Char) :
    literal? (c :: rest) = (literal? rest).map (Prod.map (c :: ·) id) := by
  rw [literal?]
  · exact quote
  · exact fun same _ => slash same
  · exact fun _ _ same _ => slash same

theorem literal?_append (closed : literal? chars = some (text, behind)) (more : List Char) :
    literal? (chars ++ more) = some (text, behind ++ more) := by
  fun_induction literal? chars generalizing text behind with
  | case1 => cases closed
  | case2 rest =>
    cases closed
    rfl
  | case3 => cases closed
  | case4 c rest ih =>
    obtain ⟨⟨found, left⟩, within, same⟩ := Option.map_eq_some_iff.mp closed
    cases same
    rw [List.cons_append, List.cons_append, literal?, ih within]
    rfl
  | case5 c rest quote single slash ih =>
    obtain ⟨⟨found, left⟩, within, same⟩ := Option.map_eq_some_iff.mp closed
    cases same
    have plain : c ≠ '\\' := by
      rintro rfl
      cases rest with
      | nil => exact single rfl rfl
      | cons next rest => exact slash next rest rfl rfl
    rw [List.cons_append, literal?_plain quote plain, ih within]
    rfl

/-- A literal that ends with a text is not closed in it before. -/
theorem literal?_eq_none_of_prefix (closed : literal? chars = some (text, []))
    (starts : short <+: chars) (different : short ≠ chars) : literal? short = none := by
  obtain ⟨more, rfl⟩ := starts
  cases earlier : literal? short with
  | none => rfl
  | some found =>
    rw [literal?_append earlier more] at closed
    have rest := (List.append_eq_nil_iff.mp (Prod.mk.inj (Option.some.inj closed)).2).2
    exact absurd (by rw [rest, List.append_nil]) different

end Text

namespace Backend.Consul

open FleetSearch.Text (literal? replaced)

/-- To mark the backslashes and the quotes one by one is to replace the backslashes of the whole
text and then its quotes. -/
theorem flatMap_filterChar (chars : List Char) :
    chars.flatMap filterChar =
      replaced '"' ['\\', '"'] (replaced '\\' ['\\', '\\'] chars) := by
  rw [replaced, replaced, List.flatMap_assoc]
  congr 1
  funext c
  unfold filterChar
  by_cases slash : c = '\\'
  · subst slash
    rfl
  · by_cases quote : c = '"'
    · subst quote
      rfl
    · simp [slash, quote]

theorem literal?_flatMap_filterChar (chars rest : List Char) :
    literal? (chars.flatMap filterChar ++ '"' :: rest) = some (chars, rest) := by
  induction chars with
  | nil => rfl
  | cons c chars ih =>
    rw [List.flatMap_cons, List.append_assoc]
    rcases filterChar_cases c with ⟨spelled, _⟩ | ⟨spelled, slash, quote⟩ <;> rw [spelled]
    · rw [List.cons_append, List.singleton_append, literal?, ih]
      rfl
    · rw [List.singleton_append, Text.literal?_plain quote slash, ih]
      rfl

theorem toList_nodeFilter (pattern : String) : (nodeFilter pattern).toList =
    "Node contains ".toList ++ '"' :: (pattern.toList.flatMap filterChar ++ ['"']) := by
  have opening : "Node contains \"".toList = "Node contains ".toList ++ ['"'] := by decide
  have text : (String.ofList (pattern.toList.flatMap filterChar)).toList =
      pattern.toList.flatMap filterChar := String.toList_ofList
  unfold nodeFilter
  rw [String.toList_append, String.toList_append, text, opening, List.append_assoc,
    List.append_assoc, List.singleton_append]
  rfl

/-- Whatever the pattern is: the literal that the first quote of its filter opens is closed by the
last character of the filter, by none before, and says the pattern. What stands in it is the pattern
with its backslashes replaced first and its quotes then. So different patterns have different
filters. -/
theorem nodeFilter_closed (pattern : String) :
    (∃ quoted : List Char,
      Text.cutChars '"' (nodeFilter pattern).toList = some ("Node contains ".toList, quoted) ∧
      literal? quoted = some (pattern.toList, []) ∧
      (∀ short, short <+: quoted → short ≠ quoted → literal? short = none) ∧
      quoted = replaced '"' ['\\', '"'] (replaced '\\' ['\\', '\\'] pattern.toList) ++ ['"']) ∧
    ∀ other, nodeFilter pattern = nodeFilter other → pattern = other := by
  have closed := literal?_flatMap_filterChar pattern.toList []
  refine ⟨⟨pattern.toList.flatMap filterChar ++ ['"'], ?_, closed, fun short starts different =>
    Text.literal?_eq_none_of_prefix closed starts different, ?_⟩, fun other => nodeFilter_injective⟩
  · rw [toList_nodeFilter]
    exact Text.cutChars_append (by decide) _
  · rw [flatMap_filterChar]

/-- A pattern with a backslash before a quote. -/
theorem nodeFilter_closed_escape :
    let quoted := "a\\\\\\\"b\"".toList
    let short := "a\\\\\\\"".toList
    nodeFilter "a\\\"b" = "Node contains \"a\\\\\\\"b\"" ∧
      literal? quoted = some ("a\\\"b".toList, []) ∧
      short <+: quoted ∧ short ≠ quoted ∧ literal? short = none := by
  intro quoted short
  have written : nodeFilter "a\\\"b" = "Node contains \"a\\\\\\\"b\"" := by decide
  obtain ⟨⟨found, first, closed, early, _⟩, _⟩ := nodeFilter_closed "a\\\"b"
  rw [written] at first
  cases first
  have starts : short <+: quoted := ⟨"b\"".toList, by decide⟩
  have different : short ≠ quoted := by decide
  exact ⟨written, closed, starts, different, early short starts different⟩

end Backend.Consul

end FleetSearch
