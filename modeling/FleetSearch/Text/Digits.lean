/-! Whole numbers as text: writing in base ten and sixteen, and strict reading, where every
character counts and the value has to fit the given bound. -/

namespace FleetSearch.Text

/-- The digit of a value below sixteen, in lower case. -/
def digitChar (value : Nat) : Char :=
  if value < 10 then Char.ofNat (48 + value) else Char.ofNat (87 + value)

/-- A number written in a base from two to sixteen, without leading zeros. -/
def digits (base : Nat) (value : Nat) : List Char :=
  if _h : base < 2 ∨ value < base then [digitChar value]
  else digits base (value / base) ++ [digitChar (value % base)]
termination_by value
decreasing_by exact Nat.div_lt_self (by omega) (by omega)

def decimal (value : Nat) : String :=
  String.ofList (digits 10 value)

def signedDecimal (value : Int) : String :=
  if value < 0 then "-" ++ decimal value.natAbs else decimal value.natAbs

/-- The value of a digit in a base, letters in either case. -/
def digitValue? (base : Nat) (c : Char) : Option Nat :=
  let value :=
    if '0' ≤ c ∧ c ≤ '9' then c.toNat - 48
    else if 'a' ≤ c ∧ c ≤ 'f' then c.toNat - 87
    else if 'A' ≤ c ∧ c ≤ 'F' then c.toNat - 55
    else base
  if value < base then some value else none

def readDigits (base : Nat) : Nat → List Char → Option Nat
  | value, [] => some value
  | value, c :: rest => do readDigits base (value * base + (← digitValue? base c)) rest

/-- A nonempty run of digits and nothing else. -/
def natural? (base : Nat) : List Char → Option Nat
  | [] => none
  | chars => readDigits base 0 chars

/-- An unsigned number below the bound; one leading plus is allowed. -/
def unsigned? (bound : Nat) (chars : List Char) : Option Nat := do
  let value ← match chars with
    | '+' :: rest => natural? 10 rest
    | _ => natural? 10 chars
  if value < bound then some value else none

def word16? (text : String) : Option Nat :=
  unsigned? (Nat.pow 2 16) text.toList

def word64? (text : String) : Option Nat :=
  unsigned? (Nat.pow 2 64) text.toList

end FleetSearch.Text
