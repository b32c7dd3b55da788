/-! Double precision numbers in exact whole-number arithmetic. A finite number is a sign and a
multiple of the smallest positive double, so every operation is a division rounded once. -/

namespace FleetSearch.Decimal

/-- A double. A finite one stands for `mantissa * 2 ^ exponent` smallest units of `2 ^ -1074`;
the mantissa is below `2 ^ 53`, and at least `2 ^ 52` unless the exponent is zero. -/
inductive Binary64 where
  | finite (negative : Bool) (mantissa exponent : Nat)
  | infinite (negative : Bool)
  | notANumber
deriving DecidableEq, Repr, Inhabited

/-- The quotient rounded to the nearest whole number, a tie to the even neighbour. -/
def divideToEven (numerator denominator : Nat) : Nat :=
  let quotient := numerator / denominator
  let twice := 2 * (numerator % denominator)
  if twice > denominator ∨ (twice = denominator ∧ quotient % 2 = 1) then quotient + 1
  else quotient

namespace Binary64

def zero (negative : Bool) : Binary64 := .finite negative 0 0

/-- The exponent above which a number no longer fits. -/
def maxExponent : Nat := 2045

/-- The double nearest to a quotient, or infinity beyond the largest one. -/
def ofRatio (negative : Bool) (numerator denominator : Nat) : Binary64 :=
  let units := numerator * Nat.pow 2 1074
  let exponent := Nat.log2 (units / denominator) - 52
  let mantissa := divideToEven units (denominator * Nat.pow 2 exponent)
  let (mantissa, exponent) :=
    if mantissa = Nat.pow 2 53 then (Nat.pow 2 52, exponent + 1) else (mantissa, exponent)
  if exponent > maxExponent then .infinite negative else .finite negative mantissa exponent

/-- The double nearest to a whole number. -/
def ofInt (value : Int) : Binary64 :=
  ofRatio (value < 0) value.natAbs 1

/-- The double nearest to a decimal with a decimal exponent. Exponents beyond all doubles are not
worked out. -/
def ofDecimal (negative : Bool) (significand : Nat) (exponent : Int) : Binary64 :=
  let power := exponent.natAbs
  if significand = 0 then zero negative
  else if exponent < 0 then
    if 3 * power > Nat.log2 significand + 1100 then zero negative
    else ofRatio negative significand (Nat.pow 10 power)
  else if power > 310 then .infinite negative
  else ofRatio negative (significand * Nat.pow 10 power) 1

/-- The product with a whole number. -/
def scaleUp (factor : Nat) : Binary64 → Binary64
  | .finite negative mantissa exponent =>
    ofRatio negative (mantissa * Nat.pow 2 exponent * factor) (Nat.pow 2 1074)
  | other => other

/-- The quotient by a positive whole number. -/
def scaleDown (divisor : Nat) : Binary64 → Binary64
  | .finite negative mantissa exponent =>
    ofRatio negative (mantissa * Nat.pow 2 exponent) (Nat.pow 2 1074 * divisor)
  | other => other

/-- Whether the number is zero of either sign. -/
def isZero : Binary64 → Bool
  | .finite _ mantissa _ => mantissa == 0
  | _ => false

/-- Whether the number is neither infinite nor undefined. -/
def isFinite : Binary64 → Bool
  | .finite .. => true
  | _ => false

/-- Whether the number is below zero; negative zero is not. -/
def isBelowZero : Binary64 → Bool
  | .finite negative mantissa _ => negative && mantissa != 0
  | .infinite negative => negative
  | .notANumber => false

/-- The magnitude of a finite number rounded down to whole units of `1 / scale`. -/
def floorScaled (scale : Nat) : Binary64 → Option Nat
  | .finite _ mantissa exponent => some (mantissa * Nat.pow 2 exponent * scale / Nat.pow 2 1074)
  | _ => none

end Binary64

end FleetSearch.Decimal
