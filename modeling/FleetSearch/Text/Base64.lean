/-! Base64 with padding. -/

namespace FleetSearch.Text

def base64Sign (value : Nat) : Char :=
  if value < 26 then Char.ofNat (65 + value)
  else if value < 52 then Char.ofNat (97 + value - 26)
  else if value < 62 then Char.ofNat (48 + value - 52)
  else if value = 62 then '+' else '/'

def base64 : List Nat → List Char
  | [] => []
  | [a] => [base64Sign (a / 4), base64Sign (a % 4 * 16), '=', '=']
  | [a, b] => [base64Sign (a / 4), base64Sign (a % 4 * 16 + b / 16), base64Sign (b % 16 * 4), '=']
  | a :: b :: c :: rest =>
    base64Sign (a / 4) :: base64Sign (a % 4 * 16 + b / 16) :: base64Sign (b % 16 * 4 + c / 64) ::
      base64Sign (c % 64) :: base64 rest

end FleetSearch.Text
