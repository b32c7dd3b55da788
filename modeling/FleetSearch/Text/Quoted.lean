import FleetSearch.Text.Digits
import FleetSearch.Unicode.Category

/-! Quoted names in messages: between double quotes, with an escape for every character that
would not show as itself. -/

namespace FleetSearch.Text

def codeEscape (c : Char) : List Char :=
  '\\' :: 'u' :: '\x7b' :: digits 16 c.toNat ++ ['\x7d']

def quoteChar (c : Char) : List Char :=
  match c with
  | '\x00' => ['\\', '0']
  | '\t' => ['\\', 't']
  | '\n' => ['\\', 'n']
  | '\r' => ['\\', 'r']
  | '"' => ['\\', '"']
  | '\\' => ['\\', '\\']
  | _ =>
    if ' ' ≤ c ∧ c ≤ '~' then [c]
    else if Unicode.isExtender c || !Unicode.isPrintable c then codeEscape c
    else [c]

def quote (text : String) : String :=
  String.ofList ('"' :: text.toList.flatMap quoteChar ++ ['"'])

end FleetSearch.Text
