import FleetSearch.Decimal.Binary64
import FleetSearch.Text.Digits

/-! The shortest decimal that reads back as a given double: of all decimals with the fewest
digits inside the interval of reals that round to it, the one nearest to it. -/

namespace FleetSearch.Decimal

/-- A positive decimal: its digits as one number, times a power of ten. -/
structure Shortest where
  significand : Nat
  exponent : Int
deriving DecidableEq, Repr

def leadingPower (numerator denominator : Nat) : Int :=
  let whole := numerator / denominator
  if 0 < whole then ((Text.digits 10 whole).length - 1 : Nat)
  else
    let ceiling := (denominator + numerator - 1) / numerator
    Int.neg (Text.digits 10 (ceiling - 1)).length

/-- The interval of quotients that round to one double, all over a common denominator. -/
structure Interval where
  low : Nat
  value : Nat
  high : Nat
  denominator : Nat
  closed : Bool

/-- The reals that round to a positive finite double; its ends belong to it when the mantissa
is even, and below a power of two the lower half is narrower. -/
def Interval.ofFinite (mantissa exponent : Nat) : Interval :=
  let unit := Nat.pow 2 exponent
  let lower := if mantissa = Nat.pow 2 52 ∧ 0 < exponent then 1 else 2
  { low := (4 * mantissa - lower) * unit
    value := 4 * mantissa * unit
    high := (4 * mantissa + 2) * unit
    denominator := 4 * Nat.pow 2 1074
    closed := mantissa % 2 == 0 }

/-- Whether a multiple of the grid step lies in the interval; both are over one denominator. -/
def Interval.contains (range : Interval) (scale step candidate : Nat) : Bool :=
  let point := candidate * step
  if range.closed then range.low * scale ≤ point && point ≤ range.high * scale
  else range.low * scale < point && point < range.high * scale

/-- The grid point nearest to the value inside the interval, if a neighbour of the value is
inside: a tie goes to the even one. -/
def Interval.nearest? (range : Interval) (scale step : Nat) : Option Nat :=
  let below := range.value * scale / step
  let remainder := range.value * scale % step
  let preferBelow :=
    2 * remainder < step || (2 * remainder == step && below % 2 == 0)
  let first := if preferBelow then below else below + 1
  let second := if preferBelow then below + 1 else below
  if range.contains scale step first then some first
  else if range.contains scale step second then some second
  else none

def Interval.onGrid? (range : Interval) (power : Int) : Option Shortest :=
  let found :=
    if power < 0 then range.nearest? (Nat.pow 10 power.natAbs) range.denominator
    else range.nearest? 1 (range.denominator * Nat.pow 10 power.natAbs)
  found.map fun significand => ⟨significand, power⟩

/-- The first hit on grids that grow finer by one digit each. -/
def Interval.search (range : Interval) (leading : Int) : Nat → Nat → Option Shortest
  | 0, _ => none
  | tries + 1, places =>
    match range.onGrid? (leading - places) with
    | some found => some found
    | none => range.search leading tries (places + 1)

def shortest (mantissa exponent : Nat) : Shortest :=
  let range := Interval.ofFinite mantissa exponent
  let leading := leadingPower range.value range.denominator
  (range.search leading 17 0).getD ⟨mantissa, exponent⟩

end FleetSearch.Decimal
