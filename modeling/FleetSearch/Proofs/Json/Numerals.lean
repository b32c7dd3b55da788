import Mathlib.Data.List.TakeDrop
import FleetSearch.Json.Read
import FleetSearch.Json.Write
import FleetSearch.Proofs.Text.Digits

/-! Whole numbers as they are written and read in JSON. What is written is a literal, and it reads
back as the number if that fits sixty-four bits. -/

namespace FleetSearch.Json

/-- Whether a text can follow a value: it is over, or an array or object goes on or ends. -/
def Stops : List Char → Prop
  | [] => True
  | c :: _ => c = ',' ∨ c = ']' ∨ c = '\x7d'

/-- Whether a number is whole and fits sixty-four bits. Below zero it is kept as a double: the zero
that is written with a minus. -/
def Number.IsWhole : Number → Prop
  | .whole value => -(2 ^ 63 : Int) ≤ value ∧ value < 2 ^ 64
  | .double value => value = Decimal.Binary64.zero true

theorem isDigit_digitChar {value : Nat} (small : value < 10) :
    isDigit (Text.digitChar value) = true := by
  interval_cases value <;> rfl

theorem digit_digitChar {value : Nat} (small : value < 10) :
    Literal.digit (Text.digitChar value) = value := by
  interval_cases value <;> rfl

theorem isDigit_of_mem_digits {value : Nat} {c : Char} (member : c ∈ Text.digits 10 value) :
    isDigit c = true := by
  obtain ⟨digit, small, rfl⟩ := Text.exists_digitChar_of_mem (by decide) member
  exact isDigit_digitChar small

/-- No zero leads the digits of a number, unless it is zero itself. -/
theorem digits_eq_cons {value : Nat} (positive : 0 < value) : ∃ first rest, 0 < first ∧
    first < 10 ∧ Text.digits 10 value = Text.digitChar first :: rest := by
  induction value using Nat.strongRecOn with
  | ind value ih =>
    by_cases small : value < 10
    · exact ⟨value, [], positive, small, Text.digits_of_lt small⟩
    · obtain ⟨first, rest, nonzero, digit, written⟩ := ih (value / 10) (by omega) (by omega)
      refine ⟨first, rest ++ [Text.digitChar (value % 10)], nonzero, digit, ?_⟩
      rw [Text.digits_of_le (by decide) (by omega), written, List.cons_append]

theorem isDigit_of_stops {c : Char} {rest : List Char} (stops : Stops (c :: rest)) :
    isDigit c = false := by
  rcases stops with rfl | rfl | rfl <;> rfl

theorem digits?_digits {value : Nat} {rest : List Char} (stops : Stops rest) :
    digits? (Text.digits 10 value ++ rest) = some (Text.digits 10 value, rest) := by
  have taken : (Text.digits 10 value ++ rest).span isDigit = (Text.digits 10 value, rest) := by
    have behind : rest.takeWhile isDigit = [] ∧ rest.dropWhile isDigit = rest := by
      cases rest with
      | nil => exact ⟨rfl, rfl⟩
      | cons c rest => simp [isDigit_of_stops stops]
    have digits : ∀ c ∈ Text.digits 10 value, isDigit c = true := fun _ => isDigit_of_mem_digits
    rw [List.span_eq_takeWhile_dropWhile, List.takeWhile_append_of_pos digits,
      List.dropWhile_append_of_pos digits, behind.1, behind.2, List.append_nil]
  unfold digits?
  rw [taken]
  cases written : Text.digits 10 value with
  | nil => exact absurd written (Text.digits_ne_nil 10 value)
  | cons first others => rfl

theorem wholePart?_digits {value : Nat} {rest : List Char} (stops : Stops rest) :
    wholePart? (Text.digits 10 value ++ rest) = some (Text.digits 10 value, rest) := by
  have read : digits? (Text.digits 10 value ++ rest) = some (Text.digits 10 value, rest) :=
    digits?_digits stops
  unfold wholePart?
  split
  · rename_i c others split
    rcases Nat.eq_zero_or_pos value with rfl | positive
    · rw [Text.digits_of_lt (by omega)] at split ⊢
      obtain ⟨_, rfl⟩ := List.cons.inj split
      rw [isDigit_of_stops stops, if_neg (by simp)]
      rfl
    · obtain ⟨first, more, nonzero, digit, written⟩ := digits_eq_cons positive
      rw [written, List.cons_append] at split
      have zero := (List.cons.inj split).1
      interval_cases first <;> simp [Text.digitChar] at zero
  · exact read

theorem exponentPart?_of_stops {rest : List Char} (stops : Stops rest) :
    exponentPart? rest = some (none, rest) := by
  unfold exponentPart?
  cases rest with
  | nil => rfl
  | cons c rest => rcases stops with rfl | rfl | rfl <;> simp

theorem literal?_digits (negative : Bool) {value : Nat} {rest : List Char} (stops : Stops rest) :
    literal? negative (Text.digits 10 value ++ rest) =
      some (⟨negative, Text.digits 10 value, none, none⟩, rest) := by
  have fraction : fractionPart? rest = some (none, rest) := by
    unfold fractionPart?
    split
    · rcases stops with impossible | impossible | impossible <;> cases impossible
    · rfl
  simp [literal?, wholePart?_digits stops, fraction, exponentPart?_of_stops stops]

theorem gather_append {significand gathered : Nat} {first second : List Char}
    (whole : Literal.gather significand first = (gathered, [])) :
    Literal.gather significand (first ++ second) = Literal.gather gathered second := by
  induction first generalizing significand with
  | nil =>
    cases whole
    rfl
  | cons c rest ih =>
    rw [Literal.gather] at whole
    rw [List.cons_append, Literal.gather]
    split at whole
    · cases whole
    · rename_i fits
      rw [if_neg fits]
      exact ih whole

/-- What fits sixty-four bits is gathered whole. -/
theorem gather_digits {value : Nat} (fits : value < 2 ^ 64) :
    Literal.gather 0 (Text.digits 10 value) = (value, []) := by
  induction value using Nat.strongRecOn with
  | ind value ih =>
    by_cases small : value < 10
    · rw [Text.digits_of_lt small]
      simp [Literal.gather, Literal.overflows, digit_digitChar small]
      omega
    · have last : value % 10 < 10 := by omega
      have whole : value / 10 * 10 + value % 10 = value := by omega
      rw [Text.digits_of_le (by decide) (Nat.le_of_not_lt small),
        gather_append (ih _ (by omega) (by omega))]
      simp [Literal.gather, Literal.overflows, digit_digitChar last, whole]
      omega

theorem number?_of_natural {value : Nat} (fits : value < 2 ^ 64) :
    (Literal.mk false (Text.digits 10 value) none none).number? = some (.whole value) := by
  simp [Literal.number?, gather_digits fits]

theorem number?_of_negative {value : Nat} (positive : 0 < value) (fits : value ≤ 2 ^ 63) :
    (Literal.mk true (Text.digits 10 value) none none).number? = some (.whole (-value)) := by
  have gathered : Literal.gather 0 (Text.digits 10 value) = (value, []) :=
    gather_digits (by omega)
  have kept : ¬ (value = 0 ∨ Nat.pow 2 63 < value) := by
    have power : Nat.pow 2 63 = 2 ^ 63 := rfl
    omega
  simp [Literal.number?, gathered, kept]
  rfl

theorem literal?_zero {rest : List Char} (stops : Stops rest) :
    literal? true ('0' :: '.' :: '0' :: rest) = some (⟨true, ['0'], some ['0'], none⟩, rest) := by
  have zero : Text.digits 10 0 = ['0'] := Text.digits_of_lt (by omega)
  have digits : digits? (Text.digits 10 0 ++ rest) = some (Text.digits 10 0, rest) :=
    digits?_digits stops
  rw [zero, List.singleton_append] at digits
  have exponent : exponentPart? rest = some (none, rest) := exponentPart?_of_stops stops
  simp [literal?, wholePart?, isDigit, fractionPart?, digits, exponent]

/-- A whole number is written as digits, or as a minus with a literal behind it, and reads back. -/
theorem Number.IsWhole.cases {number : Number} (whole : number.IsWhole) :
    (∃ value, number.write.toList = Text.digits 10 value ∧
      (Literal.mk false (Text.digits 10 value) none none).number? = some number) ∨
    ∃ chars literal, number.write.toList = '-' :: chars ∧ literal.number? = some number ∧
      ∀ rest, Stops rest → literal? true (chars ++ rest) = some (literal, rest) := by
  cases number with
  | whole value =>
    obtain ⟨low, high⟩ := whole
    by_cases negative : value < 0
    · obtain ⟨size, rfl⟩ := Int.exists_eq_neg_ofNat (Int.le_of_lt negative)
      refine .inr ⟨Text.digits 10 size, _, ?_, number?_of_negative (by omega) (by omega),
        fun rest => literal?_digits true⟩
      simp only [Number.write, Text.signedDecimal, if_pos negative]
      simp [Text.decimal]
    · obtain ⟨size, rfl⟩ := Int.eq_ofNat_of_zero_le (Int.not_lt.mp negative)
      refine .inl ⟨size, ?_, number?_of_natural (by omega)⟩
      simp only [Number.write, Text.signedDecimal, if_neg negative]
      simp [Text.decimal]
  | double value =>
    obtain rfl : value = Decimal.Binary64.zero true := whole
    refine .inr ⟨['0', '.', '0'], ⟨true, ['0'], some ['0'], none⟩, rfl, ?_,
      fun rest => literal?_zero⟩
    decide +kernel

end FleetSearch.Json
