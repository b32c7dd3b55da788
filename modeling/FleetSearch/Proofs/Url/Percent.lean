import FleetSearch.Proofs.Text.Digits
import FleetSearch.Url.Percent

/-! Which characters percent-encoding leaves: those that are safe, and those that write bytes. -/

namespace FleetSearch

theorem Text.encodeChar_lt {c : Char} {byte : Nat} (member : byte ∈ Text.encodeChar c) :
    byte < 256 := by
  have valid : c.toNat < 0xd800 ∨ 0xdfff < c.toNat ∧ c.toNat < 0x110000 := c.valid
  simp only [Text.encodeChar] at member
  split at member
  · simp only [List.mem_singleton] at member
    omega
  · split at member
    · simp only [List.mem_cons, List.not_mem_nil, or_false] at member
      omega
    · split at member <;>
      · simp only [List.mem_cons, List.not_mem_nil, or_false] at member
        omega

namespace Url

variable {isSafe holds : Char → Bool} {chars : List Char} {c : Char}

/-- The characters that a byte is written with. -/
def byteMarks : List Char :=
  ['%', '0', '1', '2', '3', '4', '5', '6', '7', '8', '9', 'A', 'B', 'C', 'D', 'E', 'F']

theorem upperDigit_mem {value : Nat} (small : value < 16) : upperDigit value ∈ byteMarks := by
  interval_cases value <;> decide

theorem mem_byteMarks_of_mem_percentByte {byte : Nat} (small : byte < 256)
    (member : c ∈ percentByte byte) : c ∈ byteMarks := by
  simp only [percentByte, List.mem_cons, List.not_mem_nil, or_false] at member
  rcases member with rfl | rfl | rfl
  · exact List.mem_cons_self
  · exact upperDigit_mem (by omega)
  · exact upperDigit_mem (by omega)

theorem mem_percentEncode (member : c ∈ percentEncode isSafe chars) :
    isSafe c = true ∨ c ∈ byteMarks := by
  obtain ⟨source, _, member⟩ := List.mem_flatMap.mp member
  split at member
  · rename_i safe
    cases List.mem_singleton.mp member
    exact .inl safe
  · obtain ⟨byte, present, member⟩ := List.mem_flatMap.mp member
    exact .inr (mem_byteMarks_of_mem_percentByte (Text.encodeChar_lt present) member)

/-- What holds of safe characters, and of those that bytes are written with, holds of what is
encoded. -/
theorem forall_percentEncode (safe : ∀ c, isSafe c = true → holds c = true)
    (marks : byteMarks.all holds = true) (chars : List Char) :
    ∀ c ∈ percentEncode isSafe chars, holds c = true := by
  intro c member
  rcases mem_percentEncode member with kept | encoded
  · exact safe c kept
  · exact List.all_eq_true.mp marks c encoded

end Url

end FleetSearch
