import Mathlib.Data.Nat.Digits.Defs
import Mathlib.Tactic.IntervalCases
import Mathlib.Tactic.Ring
import Mathlib.Tactic.SplitIfs
import FleetSearch.Proofs.Text.Digits

/-! Which texts are read as which numbers: decimal digits, of which there is at least one, behind a
plus sign or nothing, if the number that they spell is below the bound. -/

namespace FleetSearch.Text

variable {c : Char} {chars : List Char} {digit value number bound : Nat}

/-- Whether characters are digits that spell a number in base ten, and nothing else. Leading zeros
are digits like others. -/
def Spells (chars : List Char) (number : Nat) : Prop :=
  ∃ digits : List Nat, digits ≠ [] ∧ (∀ digit ∈ digits, digit < 10) ∧
    chars = digits.map digitChar ∧ number = Nat.ofDigits 10 digits.reverse

/-- Whether characters are a number in base ten, with a plus sign in front or none. -/
def IsNumeral (chars : List Char) (number : Nat) : Prop :=
  ∃ unsigned, Spells unsigned number ∧ (chars = unsigned ∨ chars = '+' :: unsigned)

theorem digitValue?_eq_some_iff :
    digitValue? 10 c = some digit ↔ digit < 10 ∧ c = digitChar digit := by
  constructor
  · intro read
    have decimal : '0' ≤ c ∧ c ≤ '9' ↔ 48 ≤ c.toNat ∧ c.toNat ≤ 57 :=
      and_congr UInt32.le_iff_toNat_le UInt32.le_iff_toNat_le
    have lower : 'a' ≤ c ∧ c ≤ 'f' ↔ 97 ≤ c.toNat ∧ c.toNat ≤ 102 :=
      and_congr UInt32.le_iff_toNat_le UInt32.le_iff_toNat_le
    have upper : 'A' ≤ c ∧ c ≤ 'F' ↔ 65 ≤ c.toNat ∧ c.toNat ≤ 70 :=
      and_congr UInt32.le_iff_toNat_le UInt32.le_iff_toNat_le
    -- Letters stand for ten and more, and all else for the base.
    have found : 48 ≤ c.toNat ∧ c.toNat ≤ 57 ∧ c.toNat - 48 = digit := by
      simp only [digitValue?, decimal, lower, upper, Option.ite_none_right_eq_some,
        Option.some.injEq] at read
      obtain ⟨small, same⟩ := read
      split_ifs at small same <;> omega
    obtain ⟨low, high, rfl⟩ := found
    refine ⟨by omega, ?_⟩
    rw [digitChar, if_pos (by omega), Nat.add_sub_cancel' low, Char.ofNat_toNat]
  · rintro ⟨small, rfl⟩
    exact digitValue?_digitChar small (by decide)

theorem ofDigits_reverse_cons (digit : Nat) (digits : List Nat) :
    Nat.ofDigits 10 (digit :: digits).reverse =
      digit * 10 ^ digits.length + Nat.ofDigits 10 digits.reverse := by
  rw [List.reverse_cons, Nat.ofDigits_append, Nat.ofDigits_singleton, List.length_reverse]
  ring

/-- Digits that are read continue the number that was read before them. -/
theorem readDigits_eq_some_iff : readDigits 10 value chars = some number ↔
    ∃ digits : List Nat, (∀ digit ∈ digits, digit < 10) ∧ chars = digits.map digitChar ∧
      number = value * 10 ^ digits.length + Nat.ofDigits 10 digits.reverse := by
  induction chars generalizing value with
  | nil =>
    constructor
    · intro read
      cases read
      exact ⟨[], by simp⟩
    · rintro ⟨digits, _, spelled, rfl⟩
      obtain rfl := List.map_eq_nil_iff.mp spelled.symm
      simp [readDigits]
  | cons c rest ih =>
    have continued (digit : Nat) (digits : List Nat) :
        (value * 10 + digit) * 10 ^ digits.length + Nat.ofDigits 10 digits.reverse =
          value * 10 ^ (digit :: digits).length + Nat.ofDigits 10 (digit :: digits).reverse := by
      rw [ofDigits_reverse_cons, List.length_cons]
      ring
    constructor
    · intro read
      obtain ⟨digit, first, later⟩ := Option.bind_eq_some_iff.mp read
      obtain ⟨small, rfl⟩ := digitValue?_eq_some_iff.mp first
      obtain ⟨digits, others, rfl, rfl⟩ := ih.mp later
      exact ⟨digit :: digits, List.forall_mem_cons.mpr ⟨small, others⟩, rfl, continued digit digits⟩
    · rintro ⟨digits, small, spelled, rfl⟩
      cases digits with
      | nil => cases spelled
      | cons digit digits =>
        obtain ⟨rfl, rfl⟩ := List.cons.inj spelled
        obtain ⟨first, others⟩ := List.forall_mem_cons.mp small
        exact Option.bind_eq_some_iff.mpr ⟨digit, digitValue?_eq_some_iff.mpr ⟨first, rfl⟩,
          ih.mpr ⟨digits, others, rfl, (continued digit digits).symm⟩⟩

theorem natural?_eq_some_iff : natural? 10 chars = some number ↔ Spells chars number := by
  constructor
  · intro read
    cases chars with
    | nil => cases read
    | cons c rest =>
      obtain ⟨digits, small, spelled, rfl⟩ := readDigits_eq_some_iff.mp read
      refine ⟨digits, ?_, small, spelled, by simp⟩
      rintro rfl
      cases spelled
  · rintro ⟨digits, nonempty, small, rfl, rfl⟩
    rw [natural?]
    · exact readDigits_eq_some_iff.mpr ⟨digits, small, rfl, by simp⟩
    · simpa using nonempty

theorem Spells.ne_plus {rest : List Char} (spells : Spells chars number) : chars ≠ '+' :: rest := by
  rintro rfl
  obtain ⟨digits, _, small, spelled, _⟩ := spells
  cases digits with
  | nil => cases spelled
  | cons digit digits =>
    have digital : digitChar digit ≠ '+' := by
      have ten : digit < 10 := small digit List.mem_cons_self
      interval_cases digit <;> decide
    exact digital (List.cons.inj spelled).1.symm

theorem unsigned?_plus (rest : List Char) :
    unsigned? bound ('+' :: rest) = (natural? 10 rest).filter (· < bound) := by
  simp only [unsigned?]
  cases natural? 10 rest <;> simp [Option.filter]

theorem unsigned?_of_ne (unsigned : ∀ rest, chars ≠ '+' :: rest) :
    unsigned? bound chars = (natural? 10 chars).filter (· < bound) := by
  unfold unsigned?
  split
  · exact absurd rfl (unsigned _)
  · cases natural? 10 chars <;> simp [Option.filter]

/-- What is read as a number is a numeral of it, if it is below the bound. -/
theorem unsigned?_eq_some_iff :
    unsigned? bound chars = some number ↔ IsNumeral chars number ∧ number < bound := by
  by_cases signed : ∃ rest, chars = '+' :: rest
  · obtain ⟨rest, rfl⟩ := signed
    rw [unsigned?_plus, Option.filter_eq_some_iff, natural?_eq_some_iff, decide_eq_true_iff]
    refine and_congr_left fun _ => ⟨fun spells => ⟨rest, spells, .inr rfl⟩, ?_⟩
    rintro ⟨digits, spells, bare | plus⟩
    · exact absurd bare.symm spells.ne_plus
    · obtain rfl := (List.cons.inj plus).2
      exact spells
  · have unsigned (rest : List Char) : chars ≠ '+' :: rest := fun plus => signed ⟨rest, plus⟩
    rw [unsigned?_of_ne unsigned, Option.filter_eq_some_iff, natural?_eq_some_iff,
      decide_eq_true_iff]
    refine and_congr_left fun _ => ⟨fun spells => ⟨chars, spells, .inl rfl⟩, ?_⟩
    rintro ⟨digits, spells, rfl | plus⟩
    · exact spells
    · exact absurd plus (unsigned digits)

theorem word16?_eq_some_iff {text : String} :
    word16? text = some number ↔ IsNumeral text.toList number ∧ number < 2 ^ 16 :=
  unsigned?_eq_some_iff

theorem word64?_eq_some_iff {text : String} :
    word64? text = some number ↔ IsNumeral text.toList number ∧ number < 2 ^ 64 :=
  unsigned?_eq_some_iff

end FleetSearch.Text
