import Mathlib.Data.List.Infix
import FleetSearch.Proofs.Text.Digits
import FleetSearch.Proofs.Url.Percent
import FleetSearch.Url.Read

/-! Parts of URLs as they are written: neither the credentials nor the host nor the path of an
address that was read have a character in them that a query or a fragment begins with. -/

namespace FleetSearch.Url

variable {chars : List Char} {c : Char} {text scheme : String}

/-- Whether a character can stand in a written authority or path: it is visible, and no query or
fragment begins with it. -/
def isPlain (c : Char) : Bool :=
  0x20 < c.toNat && c != '?' && c != '#'

/-- Whether a part of a URL can stand before its query. -/
def Plain (text : String) : Prop :=
  ∀ c ∈ text.toList, isPlain c = true

instance (text : String) : Decidable (Plain text) :=
  decidable_of_iff (text.toList.all isPlain = true) List.all_eq_true

theorem plain_empty : Plain "" := by decide

theorem plain_percentEncode {isSafe : Char → Bool} (safe : ∀ c, isSafe c = true → isPlain c = true)
    (chars : List Char) : Plain (String.ofList (percentEncode isSafe chars)) := by
  intro c member
  rw [String.toList_ofList] at member
  exact forall_percentEncode safe (by decide) chars c member

theorem isPlain_of_isPathSafe (safe : isPathSafe c = true) : isPlain c = true := by
  have visible : 0x20 ≤ c.toNat ∧ c ≠ ' ' ∧ c ≠ '#' ∧ c ≠ '?' := by
    simp [isPathSafe, isFragmentSafe, isVisible] at safe
    tauto
  have blank : c.toNat ≠ 0x20 := fun same => visible.2.1 (Char.toNat_inj.mp same)
  simp [isPlain, visible]
  omega

theorem Plain.append {first second : String} (left : Plain first) (right : Plain second) :
    Plain (first ++ second) := by
  intro c member
  rw [String.toList_append, List.mem_append] at member
  exact member.elim (left c) (right c)

variable {parts : List String} {segment name : String} {ofFile final : Bool}

theorem plain_pushSegment (before : ∀ part ∈ parts, Plain part) (plain : Plain segment) :
    ∀ part ∈ pushSegment ofFile parts segment final, Plain part := by
  have closed {parts : List String} (known : ∀ part ∈ parts, Plain part) :
      ∀ part ∈ (if final then parts ++ [""] else parts), Plain part := by
    intro part member
    split at member
    · rcases List.mem_append.mp member with early | last
      · exact known part early
      · cases List.mem_singleton.mp last
        exact plain_empty
    · exact known part member
  unfold pushSegment
  dsimp only
  split
  · refine closed fun part member => before part ?_
    unfold withoutLast at member
    split at member
    · split at member
      · exact member
      · exact List.mem_of_mem_dropLast member
    · cases member
  · split
    · exact closed before
    · intro part member
      unfold pushName at member
      split at member
      · cases List.mem_singleton.mp member
        intro c present
        rw [String.toList_ofList] at present
        rcases List.mem_append.mp present with letter | colon
        · exact plain c (List.mem_of_mem_take letter)
        · cases List.mem_singleton.mp colon
          decide
      · rcases List.mem_append.mp member with early | last
        · exact before part early
        · cases List.mem_singleton.mp last
          exact plain

theorem plain_addSegment (before : ∀ part ∈ parts, Plain part) :
    ∀ part ∈ addSegment scheme parts name, Plain part := by
  unfold addSegment
  split
  · exact before
  · refine plain_pushSegment (fun part member => before part ?_) (plain_percentEncode ?_ _)
    · split at member
      · cases member
      · exact member
    · intro c safe
      simp only [isSegmentSafe, Bool.and_eq_true] at safe
      exact isPlain_of_isPathSafe safe.1.1.1

end FleetSearch.Url
