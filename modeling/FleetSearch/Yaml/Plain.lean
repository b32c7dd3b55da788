import FleetSearch.Decimal.Binary64
import FleetSearch.Text.Digits

/-! What plain scalars stand for: null, truth values, numbers in several notations, or text. -/

namespace FleetSearch.Yaml

/-- What a plain scalar stands for. -/
inductive Plain where
  | null
  | bool (value : Bool)
  | integer (value : Int)
  /-- A whole number that needs more than sixty-four bits, and at most twice as many. -/
  | wideInteger
  | float (value : Decimal.Binary64)
  | text

namespace Plain

def isNull (text : String) : Bool :=
  text == "null" || text == "Null" || text == "NULL" || text == "~"

def bool? (text : String) : Option Bool :=
  if text = "true" ∨ text = "True" ∨ text = "TRUE" then some true
  else if text = "false" ∨ text = "False" ∨ text = "FALSE" then some false
  else none

def isSign (c : Char) : Bool := c == '+' || c == '-'

/-- The characters behind a sign, if there is one. -/
def unsigned : List Char → List Char
  | [] => []
  | c :: rest => if isSign c then rest else c :: rest

/-- Digits that a leading zero keeps from being a number. -/
def isPaddedDigits (chars : List Char) : Bool :=
  match unsigned chars with
  | '0' :: c :: rest => (c :: rest).all Char.isDigit
  | _ => false

/-- A whole number without its sign: hexadecimal, octal, binary or decimal. -/
def magnitude? : List Char → Option Nat
  | '0' :: 'x' :: rest => Text.natural? 16 rest
  | '0' :: 'o' :: rest => Text.natural? 8 rest
  | '0' :: 'b' :: rest => Text.natural? 2 rest
  | chars => if isPaddedDigits chars then none else Text.natural? 10 chars

/-- A whole number that is not below zero. -/
def natural? : List Char → Option Nat
  | '+' :: rest => magnitude? rest
  | chars => magnitude? chars

/-- The magnitude of a whole number with a minus. -/
def negative? : List Char → Option Nat
  | '-' :: rest => magnitude? rest
  | _ => none

/-- The whole number of a text, as far as there is one. -/
def integer? (text : String) : Option Plain :=
  match natural? text.toList with
  | some value =>
    if value < Nat.pow 2 64 then some (.integer value)
    else if value < Nat.pow 2 128 then some .wideInteger
    else none
  | none =>
    match negative? text.toList with
    | some value =>
      if value ≤ Nat.pow 2 63 then some (.integer (Int.neg value))
      else if value ≤ Nat.pow 2 127 then some .wideInteger
      else none
    | none => none

/-- The digits of a decimal as one number, and how many stand behind the point. -/
def decimal? (chars : List Char) : Option (Nat × Nat × List Char) :=
  let (whole, rest) := chars.span Char.isDigit
  let (fraction, rest) := match rest with
    | '.' :: rest => rest.span Char.isDigit
    | _ => ([], rest)
  (Text.natural? 10 (whole ++ fraction)).map fun value => (value, fraction.length, rest)

/-- The exponent behind a decimal: none at the end of the text counts as zero. -/
def exponent? : List Char → Option Int
  | [] => some 0
  | c :: rest =>
    if c = 'e' ∨ c = 'E' then
      let below := rest.head? == some '-'
      (Text.natural? 10 (unsigned rest)).map fun value => if below then Int.neg value else value
    else none

def finite? (chars : List Char) : Option Decimal.Binary64 := do
  let (value, places, rest) ← decimal? (unsigned chars)
  let exponent ← exponent? rest
  let double := Decimal.Binary64.ofDecimal (chars.head? == some '-') value (exponent - places)
  if double.isFinite then some double else none

def float? (text : String) : Option Decimal.Binary64 :=
  if text ∈ [".inf", ".Inf", ".INF", "+.inf", "+.Inf", "+.INF"] then some (.infinite false)
  else if text ∈ ["-.inf", "-.Inf", "-.INF"] then some (.infinite true)
  else if text ∈ [".nan", ".NaN", ".NAN"] then some .notANumber
  else finite? text.toList

def ofText (text : String) : Plain :=
  if text = "" ∨ isNull text then .null
  else match bool? text with
    | some value => .bool value
    | none =>
      match integer? text with
      | some found => found
      | none =>
        if isPaddedDigits text.toList then .text
        else match float? text with
          | some value => .float value
          | none => .text

end Plain

end FleetSearch.Yaml
