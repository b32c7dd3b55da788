import FleetSearch.Proofs.Url.Decoding
import FleetSearch.Proofs.Url.Plain

/-! Names that are put behind a path. A name is one more segment, percent-encoded, but tabs and line
ends in it are lost; a name of one or two dots is none, and one that comes to dots without what is
lost goes where dots lead. -/

namespace FleetSearch.Url

variable {url : Url} {scheme name : String} {front parts : List String} {special : Bool}

/-- What a name does behind a path: nothing, a step back, or a step down to a segment. -/
inductive Step where
  | stay
  | back
  | down (chars : List Char)
deriving DecidableEq, Repr

/-- A name without what is lost of it. -/
def keptChars (name : String) : List Char :=
  name.toList.filter fun c => !isDropped c

def Step.ofName (name : String) : Step :=
  if name = "." ∨ name = ".." then .stay
  else if keptChars name = ['.', '.'] then .back
  else if keptChars name = ['.'] then .down []
  else .down (keptChars name)

/-- The segment that says some characters. -/
def encoded (scheme : String) (chars : List Char) : String :=
  String.ofList (percentEncode (isSegmentSafe (isSpecial scheme)) chars)

def Step.follow (scheme : String) (parts : List String) : Step → List String
  | .stay => parts
  | .back => parts.dropLast ++ [""]
  | .down chars => parts ++ [encoded scheme chars]

theorem isSegmentSafe_percent (special : Bool) : isSegmentSafe special '%' = false := by
  cases special <;> decide

theorem decodeUtf8?_encoded (scheme : String) (chars : List Char) :
    Text.decodeUtf8? (percentDecode (encoded scheme chars).toList) = some chars := by
  rw [encoded, String.toList_ofList, percentDecode_percentEncode (isSegmentSafe_percent _),
    Text.decodeUtf8?_encodeUtf8]

theorem encoded_injective {first second : List Char}
    (same : encoded scheme first = encoded scheme second) : first = second :=
  percentEncode_injective (isSegmentSafe_percent _) (String.ofList_injective same)

theorem plain_encoded (scheme : String) (chars : List Char) : Plain (encoded scheme chars) := by
  refine plain_percentEncode (fun c safe => ?_) chars
  simp only [isSegmentSafe, Bool.and_eq_true] at safe
  exact isPlain_of_isPathSafe safe.1.1.1

theorem slash_notMem_encoded (scheme : String) (chars : List Char) :
    '/' ∉ (encoded scheme chars).toList := by
  have apart : ∀ c ∈ percentEncode (isSegmentSafe (isSpecial scheme)) chars, (c != '/') = true := by
    refine forall_percentEncode (fun c safe => ?_) (by decide) chars
    simp only [isSegmentSafe, Bool.and_eq_true] at safe
    exact safe.1.1.2
  rw [encoded, String.toList_ofList]
  exact fun member => absurd (apart '/' member) (by decide)

theorem percentDecode_segmentText (special : Bool) (name : String) :
    percentDecode (segmentText special name).toList = Text.encodeUtf8 (keptChars name) := by
  rw [segmentText, String.toList_ofList,
    percentDecode_percentEncode (isSegmentSafe_percent special)]
  rfl

theorem keptChars_of_segmentText {text : String} {chars : List Char}
    (spelled : percentDecode text.toList = Text.encodeUtf8 chars)
    (same : segmentText special name = text) : keptChars name = chars := by
  rw [← same, percentDecode_segmentText] at spelled
  exact Text.encodeUtf8_injective spelled

theorem segmentText_congr {chars : List Char} (kept : keptChars name = chars) :
    segmentText special name = String.ofList (percentEncode (isSegmentSafe special) chars) := by
  rw [← kept]
  rfl

/-- A segment means the path itself only if a dot is all that is kept of its name: an encoded dot is
not left as it is. -/
theorem isSingleDot_segmentText :
    isSingleDot (segmentText special name) = true ↔ keptChars name = ['.'] := by
  have spelled : ∀ text ∈ [".", "%2e", "%2E"],
      percentDecode text.toList = Text.encodeUtf8 ['.'] := by decide +kernel
  constructor
  · intro dot
    have member : segmentText special name ∈ [".", "%2e", "%2E"] := by
      simpa [isSingleDot, or_assoc] using dot
    exact keptChars_of_segmentText (spelled _ member) rfl
  · intro kept
    rw [segmentText_congr kept]
    cases special <;> decide

theorem isDoubleDot_segmentText :
    isDoubleDot (segmentText special name) = true ↔ keptChars name = ['.', '.'] := by
  have spelled : ∀ text ∈ ["..", "%2e%2e", "%2e%2E", "%2E%2e", "%2E%2E", "%2e.", "%2E.", ".%2e",
      ".%2E"], percentDecode text.toList = Text.encodeUtf8 ['.', '.'] := by decide +kernel
  constructor
  · intro dots
    have member := List.contains_iff_mem.mp dots
    exact keptChars_of_segmentText (spelled _ member) rfl
  · intro kept
    rw [segmentText_congr kept]
    cases special <;> decide

theorem pushSegment_of_ne_nil {ofFile : Bool} (nonempty : parts ≠ []) (segment : String) :
    pushSegment ofFile parts segment true =
      if isDoubleDot segment then withoutLast parts ++ [""]
      else if isSingleDot segment then parts ++ [""] else parts ++ [segment] := by
  have somewhere : parts.isEmpty = false := by simpa using nonempty
  simp [pushSegment, pushName, somewhere]

/-- Behind the name of something that is no drive, a name takes its step. -/
theorem addSegment_eq_follow {last : String} (ends : parts.getLast? = some last)
    (named : last ≠ "") (noDrive : isDrive last = false) :
    addSegment scheme parts name = (Step.ofName name).follow scheme parts := by
  have nonempty : parts ≠ [] := by
    rintro rfl
    cases ends
  have rooted : parts ≠ [""] := by
    rintro rfl
    exact named (Option.some.inj ends).symm
  have above : withoutLast parts = parts.dropLast := by simp [withoutLast, ends, noDrive]
  unfold addSegment Step.ofName
  by_cases dots : name = "." ∨ name = ".."
  · rw [if_pos dots, if_pos dots]
    rfl
  rw [if_neg dots, if_neg dots]
  dsimp only
  rw [if_neg rooted, pushSegment_of_ne_nil nonempty, above]
  by_cases double : keptChars name = ['.', '.']
  · rw [if_pos (isDoubleDot_segmentText.mpr double), if_pos double]
    rfl
  rw [if_neg (mt isDoubleDot_segmentText.mp double), if_neg double]
  by_cases single : keptChars name = ['.']
  · rw [if_pos (isSingleDot_segmentText.mpr single), if_pos single]
    rfl
  rw [if_neg (mt isSingleDot_segmentText.mp single), if_neg single]
  rfl

/-- Whether a name is a segment as it stands: it is not one or two dots, and nothing of it is
lost. -/
def Stands (name : String) : Prop :=
  name ≠ "." ∧ name ≠ ".." ∧ ∀ c ∈ name.toList, isDropped c = false

instance (name : String) : Decidable (Stands name) :=
  inferInstanceAs (Decidable (_ ∧ _ ∧ _))

/-- The names that are segments as they stand are those that step down to themselves. -/
theorem ofName_eq_down_iff : Step.ofName name = .down name.toList ↔ Stands name := by
  have whole : keptChars name = name.toList ↔ ∀ c ∈ name.toList, isDropped c = false := by
    simp [keptChars, List.filter_eq_self]
  constructor
  · intro down
    unfold Step.ofName at down
    split_ifs at down with dots double single
    · have empty : name.toList = [] := (Step.down.inj down).symm
      rw [keptChars, empty] at single
      cases single
    · obtain ⟨one, two⟩ := not_or.mp dots
      exact ⟨one, two, whole.mp (Step.down.inj down)⟩
  · rintro ⟨one, two, all⟩
    have kept := whole.mpr all
    have unlike {other : String} (different : name ≠ other) : keptChars name ≠ other.toList := by
      rw [kept]
      exact mt String.toList_inj.mp different
    have single : keptChars name ≠ ['.'] := unlike one
    have double : keptChars name ≠ ['.', '.'] := unlike two
    rw [Step.ofName, if_neg (not_or.mpr ⟨one, two⟩), if_neg double, if_neg single, kept]

theorem toList_write_segments (parts : List String) :
    (Path.segments parts).write.toList = parts.flatMap fun part => '/' :: part.toList := by
  rw [Path.write, String.toList_join, List.flatMap_map]
  simp

/-- The text before a path depends on its first two segments only. -/
theorem authority_congr (two : 2 ≤ front.length) (tail other : List String) :
    { url with path := .segments (front ++ tail) : Url }.authority =
      { url with path := .segments (front ++ other) : Url }.authority := by
  match front, two with
  | first :: second :: rest, _ =>
    unfold authority
    cases url.host with
    | some host => rfl
    | none =>
      by_cases empty : first = ""
      · subst empty
        rfl
      · simp [empty]

/-- URLs that are written alike, and differ at most in their paths behind two segments or more, are
written alike there. -/
theorem tail_eq_of_write_eq (two : 2 ≤ front.length) {tail other : List String}
    (same : { url with path := .segments (front ++ tail) : Url }.write =
      { url with path := .segments (front ++ other) : Url }.write) :
    (tail.flatMap fun part => '/' :: part.toList) =
      other.flatMap fun part => '/' :: part.toList := by
  rw [write, write, authority_congr two tail other] at same
  have paths := congrArg String.toList ((String.append_right_inj _).mp
    ((String.append_left_inj _).mp ((String.append_left_inj _).mp same)))
  rw [toList_write_segments, toList_write_segments, List.flatMap_append,
    List.flatMap_append] at paths
  exact List.append_cancel_left paths

/-- The path of an address that further segments go behind. -/
def root (parts : List String) : List String :=
  if dropFinalEmpty parts = [""] then [] else dropFinalEmpty parts

/-- A path without an empty segment at its end. -/
def withoutFinalEmpty (parts : List String) : List String :=
  if parts.getLast? = some "" then parts.dropLast else parts

theorem root_eq_iff : root parts = withoutFinalEmpty parts ↔ parts ≠ ["", ""] := by
  unfold root withoutFinalEmpty dropFinalEmpty
  by_cases ends : parts.getLast? = some ""
  · obtain ⟨before, rfl⟩ := List.getLast?_eq_some_iff.mp ends
    cases before with
    | nil => simp
    | cons first rest =>
      have dropped : (first :: rest ++ [""]).dropLast = first :: rest := List.dropLast_concat
      have long : 1 < (first :: rest ++ [""]).length ∧ (first :: rest ++ [""]).getLast? = some "" :=
        ⟨by simp, ends⟩
      rw [if_pos ends, if_pos long, dropped]
      simp
  · have filled : parts ≠ [""] ∧ parts ≠ ["", ""] := by
      constructor <;>
      · rintro rfl
        exact ends rfl
    simp [ends, filled]

end FleetSearch.Url
