import FleetSearch.Decimal.Layout
import FleetSearch.Json.Value

/-! Compact JSON text of values. -/

namespace FleetSearch.Json

/-- Doubles in JSON: a plus before positive exponents; what is not finite has no number. -/
def layout : Decimal.Layout :=
  { exponentPlus := true, infinity := "null", undefined := "null" }

def fourDigits (code : Nat) : List Char :=
  let chars := Text.digits 16 code
  List.replicate (4 - chars.length) '0' ++ chars

/-- A character inside a string: only quotes, backslashes and controls are escaped. -/
def escapeChar (c : Char) : List Char :=
  match c with
  | '"' => ['\\', '"']
  | '\\' => ['\\', '\\']
  | '\n' => ['\\', 'n']
  | '\r' => ['\\', 'r']
  | '\t' => ['\\', 't']
  | '\x08' => ['\\', 'b']
  | '\x0c' => ['\\', 'f']
  | _ => if c.toNat < 32 then '\\' :: 'u' :: fourDigits c.toNat else [c]

def writeString (text : String) : List Char :=
  '"' :: text.toList.flatMap escapeChar ++ ['"']

def Number.write : Number → String
  | .whole value => Text.signedDecimal value
  | .double value => layout.write value

def commaSeparated : List (List Char) → List Char
  | [] => []
  | [part] => part
  | part :: rest => part ++ ',' :: commaSeparated rest

mutual

def Value.chars : Value → List Char
  | .null => ['n', 'u', 'l', 'l']
  | .bool true => ['t', 'r', 'u', 'e']
  | .bool false => ['f', 'a', 'l', 's', 'e']
  | .number value => value.write.toList
  | .string text => writeString text
  | .array items => '[' :: commaSeparated (itemsChars items) ++ [']']
  | .object members => '\x7b' :: commaSeparated (membersChars members) ++ ['\x7d']

def itemsChars : List Value → List (List Char)
  | [] => []
  | item :: rest => item.chars :: itemsChars rest

def membersChars : List (String × Value) → List (List Char)
  | [] => []
  | (key, value) :: rest => (writeString key ++ ':' :: value.chars) :: membersChars rest

end

def Value.write (value : Value) : String :=
  String.ofList value.chars

end FleetSearch.Json
