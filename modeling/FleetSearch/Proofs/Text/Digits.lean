import Mathlib.Tactic.IntervalCases
import FleetSearch.Text.Digits

/-! The digits of a number: what they are, and that they are read as the number. -/

namespace FleetSearch.Text

variable {base value : Nat}

theorem digits_of_lt (single : value < base) : digits base value = [digitChar value] := by
  rw [digits, dif_pos (.inr single)]

theorem digits_of_le (two : 2 ≤ base) (large : base ≤ value) :
    digits base value = digits base (value / base) ++ [digitChar (value % base)] := by
  rw [digits, dif_neg (by omega)]

theorem digits_ne_nil (base value : Nat) : digits base value ≠ [] := by
  rw [digits]
  split <;> simp

theorem exists_digitChar_of_mem {c : Char} (two : 2 ≤ base) (member : c ∈ digits base value) :
    ∃ digit < base, c = digitChar digit := by
  induction value using Nat.strongRecOn with
  | ind value ih =>
    by_cases single : value < base
    · rw [digits_of_lt single, List.mem_singleton] at member
      exact ⟨value, single, member⟩
    · rw [digits_of_le two (by omega), List.mem_append, List.mem_singleton] at member
      rcases member with early | last
      · exact ih _ (Nat.div_lt_self (by omega) (by omega)) early
      · exact ⟨_, Nat.mod_lt _ (by omega), last⟩

theorem digitValue?_digitChar (inBase : value < base) (small : base ≤ 16) :
    digitValue? base (digitChar value) = some value := by
  have known : value < 16 := by omega
  interval_cases value <;> simp [digitValue?, digitChar, inBase]

theorem readDigits_append {first second : List Char} :
    readDigits base value (first ++ second) =
      (readDigits base value first).bind fun found => readDigits base found second := by
  induction first generalizing value with
  | nil => rfl
  | cons c rest ih =>
    rw [List.cons_append, readDigits, readDigits]
    cases digitValue? base c with
    | none => rfl
    | some digit => exact ih

theorem readDigits_digits (two : 2 ≤ base) (small : base ≤ 16) (value : Nat) :
    readDigits base 0 (digits base value) = some value := by
  induction value using Nat.strongRecOn with
  | ind value ih =>
    by_cases single : value < base
    · rw [digits_of_lt single]
      simp [readDigits, digitValue?_digitChar single small]
    · have last : value % base < base := Nat.mod_lt _ (by omega)
      have less : value / base < value := Nat.div_lt_self (by omega) (by omega)
      rw [digits_of_le two (by omega), readDigits_append, ih _ less]
      simp [readDigits, digitValue?_digitChar last small, Nat.div_add_mod']

theorem natural?_digits (two : 2 ≤ base) (small : base ≤ 16) (value : Nat) :
    natural? base (digits base value) = some value := by
  rw [natural?]
  · exact readDigits_digits two small value
  · exact digits_ne_nil base value

end FleetSearch.Text
