import Mathlib.Data.List.TakeDrop
import FleetSearch.Proofs.Text.Quoted
import FleetSearch.Proofs.Url.Plain

/-! Addresses that are written and read again: all of them keep their scheme, and those on the web
their query. -/

namespace FleetSearch.Url

variable {chars rest front others : List Char} {c : Char} {text scheme : String} {url found : Url}

/-- Whether a text is a scheme as it is kept, in lower case. -/
structure IsScheme (scheme : String) : Prop where
  letters : ∀ c ∈ scheme.toList, isSchemeChar c = true ∧ c.toLower = c
  first : scheme.toList.head?.any Char.isAlpha = true

theorem isAlpha_iff : c.isAlpha = true ↔
    65 ≤ c.toNat ∧ c.toNat ≤ 90 ∨ 97 ≤ c.toNat ∧ c.toNat ≤ 122 := by
  change (decide (65 ≤ c.val ∧ c.val ≤ 90) ||
      (decide (97 ≤ c.val) && decide (c.val ≤ 122))) = true ↔
    65 ≤ c.val.toNat ∧ c.val.toNat ≤ 90 ∨ 97 ≤ c.val.toNat ∧ c.val.toNat ≤ 122
  simp [UInt32.le_iff_toNat_le]

theorem isDigit_iff : c.isDigit = true ↔ 48 ≤ c.toNat ∧ c.toNat ≤ 57 := by
  change (decide (48 ≤ c.val) && decide (c.val ≤ 57)) = true ↔
    48 ≤ c.val.toNat ∧ c.val.toNat ≤ 57
  simp [UInt32.le_iff_toNat_le]

theorem isAlphanum_iff : c.isAlphanum = true ↔ c.isAlpha = true ∨ c.isDigit = true :=
  Bool.or_eq_true_iff

theorem visible_of_isAlphanum (valid : c.isAlphanum = true) : 0x20 < c.toNat := by
  rcases isAlphanum_iff.mp valid with letter | digit
  · rw [isAlpha_iff] at letter
    omega
  · rw [isDigit_iff] at digit
    omega

theorem visible_of_isSchemeChar (valid : isSchemeChar c = true) : 0x20 < c.toNat := by
  simp only [isSchemeChar, Bool.or_eq_true, beq_iff_eq] at valid
  rcases valid with ((letter | rfl) | rfl) | rfl
  · exact visible_of_isAlphanum letter
  all_goals decide

/-- Whether all parts of a URL with authority are written so that they can be read again. -/
structure Written (url : Url) : Prop where
  scheme : IsScheme url.scheme
  user : Plain url.user
  password : ∀ word ∈ url.password, Plain word
  host : ∃ host, url.host = some host ∧ Plain host
  path : ∃ parts, url.path = .segments parts ∧ ∀ part ∈ parts, Plain part
  query : ∀ text ∈ url.query, ∀ c ∈ text.toList, isQuerySafe true c = true
  fragment : ∀ text ∈ url.fragment, ∀ c ∈ text.toList, isFragmentSafe c = true

@[simp] theorem withSegments_scheme (url : Url) (names : List String) :
    (url.withSegments names).scheme = url.scheme := by
  rw [Url.withSegments]
  split <;> rfl

@[simp] theorem withSegments_query (url : Url) (names : List String) :
    (url.withSegments names).query = url.query := by
  rw [Url.withSegments]
  split <;> rfl

/-- Further segments are written like those of the address. -/
theorem Written.withSegments (written : url.Written) (names : List String) :
    (url.withSegments names).Written := by
  obtain ⟨parts, path, plain⟩ := written.path
  have added : ∀ part ∈ names.foldl (addSegment url.scheme) (dropFinalEmpty parts), Plain part := by
    have start : ∀ part ∈ dropFinalEmpty parts, Plain part := by
      intro part member
      unfold dropFinalEmpty at member
      split at member
      · exact plain part (List.mem_of_mem_dropLast member)
      · exact plain part member
    generalize dropFinalEmpty parts = before at start
    induction names generalizing before with
    | nil => exact start
    | cons name rest ih => exact ih _ (plain_addSegment start)
  rw [Url.withSegments, path]
  exact { written with path := ⟨_, rfl, added⟩ }

/-- The query and the fragment of a URL, as they are written behind its path. -/
def tail (url : Url) : List Char :=
  (behind "?" url.query).toList ++ (behind "#" url.fragment).toList

theorem write_eq (url : Url) : url.write.toList =
    (url.scheme.toList ++ [':']) ++
      (url.authority.toList ++ url.path.write.toList ++ url.tail) := by
  simp [write, tail]

theorem IsScheme.visible (named : IsScheme scheme) :
    ∀ c ∈ scheme.toList ++ [':'], 0x20 < c.toNat := by
  intro c member
  rcases List.mem_append.mp member with letter | colon
  · exact visible_of_isSchemeChar (named.letters c letter).1
  · cases List.mem_singleton.mp colon
    decide

end FleetSearch.Url
