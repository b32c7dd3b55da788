import FleetSearch.Decimal.Shortest

/-! How the shortest decimal of a double is laid out: positional for moderate powers of ten,
with an exponent beyond them. -/

namespace FleetSearch.Decimal

/-- The choices of one number format. -/
structure Layout where
  exponentPlus : Bool
  /-- The text of infinity without its sign. -/
  infinity : String
  undefined : String

/-- The digits of a number without trailing zeros, and the power of ten before the first. -/
def Shortest.normal (value : Shortest) : List Char × Int :=
  let chars := Text.digits 10 value.significand
  let point := (chars.length : Int) + value.exponent
  ((chars.reverse.dropWhile (· == '0')).reverse, point)

/-- The digits of a positive number with its point: positional while the point stands at most
sixteen digits behind the first digit or four zeros before it. -/
def Layout.positive (layout : Layout) (value : Shortest) : List Char :=
  let (chars, point) := value.normal
  let count := chars.length
  if 0 < point ∧ point ≤ 16 then
    let whole := point.toNat
    if count ≤ whole then chars ++ List.replicate (whole - count) '0' ++ ['.', '0']
    else chars.take whole ++ '.' :: chars.drop whole
  else if -5 < point ∧ point ≤ 0 then
    '0' :: '.' :: List.replicate point.natAbs '0' ++ chars
  else
    let fraction := if count ≤ 1 then [] else '.' :: chars.drop 1
    let power := point - 1
    let sign := if power < 0 then ['-'] else if layout.exponentPlus then ['+'] else []
    chars.take 1 ++ fraction ++ 'e' :: sign ++ Text.digits 10 power.natAbs

def Layout.write (layout : Layout) : Binary64 → String
  | .finite negative mantissa exponent =>
    let body :=
      if mantissa = 0 then ['0', '.', '0'] else layout.positive (shortest mantissa exponent)
    String.ofList (if negative then '-' :: body else body)
  | .infinite negative => if negative then "-" ++ layout.infinity else layout.infinity
  | .notANumber => layout.undefined

end FleetSearch.Decimal
