import FleetSearch.Decimal.Binary64
import FleetSearch.Json.Value

/-! Number literals. Whole literals that fit sixty-four bits are kept exactly. All others become
doubles by one scaling of the leading digits that fit sixty-four bits, so the last bit of a
literal with many digits or a large exponent can differ from the nearest double. -/

namespace FleetSearch.Json

/-- The parts of a number as written. -/
structure Literal where
  negative : Bool
  whole : List Char
  fraction : Option (List Char)
  exponent : Option (Bool × List Char)

namespace Literal

def digit (c : Char) : Nat := c.toNat - 48

def overflows (significand : Nat) (c : Char) : Bool :=
  significand * 10 + digit c ≥ Nat.pow 2 64

/-- Takes in digits while they fit: the significand and the digits that are left. -/
def gather : Nat → List Char → Nat × List Char
  | significand, [] => (significand, [])
  | significand, c :: rest =>
    if overflows significand c then (significand, c :: rest)
    else gather (significand * 10 + digit c) rest

/-- The double nearest to a power of ten, as a whole number. -/
def power (exponent : Nat) : Nat :=
  ((Decimal.Binary64.ofDecimal false 1 exponent).floorScaled 1).getD 0

/-- A significand scaled down by a power of ten, in steps that a double can hold. -/
def descend (value : Decimal.Binary64) (exponent : Nat) : Decimal.Binary64 :=
  if exponent ≤ 308 then value.scaleDown (power exponent)
  else if value.isZero then value
  else descend (value.scaleDown (power 308)) (exponent - 308)
termination_by exponent

/-- A significand scaled by a power of ten; `none` where no finite double is reached. -/
def scale? (negative : Bool) (significand : Nat) (exponent : Int) : Option Decimal.Binary64 :=
  let value := Decimal.Binary64.ofRatio negative significand 1
  if exponent < 0 then some (descend value exponent.natAbs)
  else if exponent ≤ 308 then
    let scaled := value.scaleUp (power exponent.natAbs)
    if scaled.isFinite then some scaled else none
  else if significand = 0 then some value
  else none

def exponentLimit : Nat := Nat.pow 2 31

/-- The value of an exponent's digits; `none` beyond thirty-one bits. -/
def exponentValue? : Nat → List Char → Option Nat
  | value, [] => some value
  | value, c :: rest =>
    let next := value * 10 + digit c
    if next ≥ exponentLimit then none else exponentValue? next rest

/-- The double of a literal from its leading digits and the power of ten of the last of them. -/
def double? (literal : Literal) (significand : Nat) (exponent : Int) : Option Decimal.Binary64 :=
  match literal.exponent with
  | none => scale? literal.negative significand exponent
  | some (below, digits) =>
    match exponentValue? 0 digits with
    | some value =>
      let exponent := if below then exponent - value else exponent + value
      scale? literal.negative significand exponent
    | none =>
      if significand ≠ 0 ∧ !below then none else some (Decimal.Binary64.zero literal.negative)

/-- The number of a literal; `none` where it is out of range. -/
def number? (literal : Literal) : Option Number :=
  let (significand, dropped) := gather 0 literal.whole
  match literal.fraction with
  | some fraction =>
    let (longer, left) := gather significand fraction
    let taken := fraction.length - left.length
    (literal.double? longer (dropped.length - taken)).map .double
  | none =>
    if literal.exponent.isSome || !dropped.isEmpty then
      (literal.double? significand dropped.length).map .double
    else if !literal.negative then some (.whole significand)
    else if significand = 0 ∨ Nat.pow 2 63 < significand then
      some (.double (Decimal.Binary64.ofRatio true significand 1))
    else some (.whole (Int.neg significand))

end Literal

end FleetSearch.Json
