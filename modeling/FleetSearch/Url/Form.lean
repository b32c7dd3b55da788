import FleetSearch.Text.Split
import FleetSearch.Url.Percent

/-! Form-encoded pairs, as they stand in the query of a URL. -/

namespace FleetSearch.Url

def isFormSafe (c : Char) : Bool :=
  c.isAlphanum || c == '*' || c == '-' || c == '.' || c == '_'

/-- Text in a form: a space is a plus sign. -/
def formEncode (text : String) : String :=
  String.ofList (text.toList.flatMap fun c =>
    if c == ' ' then ['+'] else percentEncode isFormSafe [c])

def formWrite (pairs : List (String × String)) : String :=
  Text.join "&" (pairs.map fun (name, value) => formEncode name ++ "=" ++ formEncode value)

def formDecode (chars : List Char) : String :=
  String.ofList (Text.decodeLossy (percentDecode (chars.map fun c => if c == '+' then ' ' else c)))

/-- The name and value of one part of a form; without an equals sign the value is empty. -/
def formPair (part : List Char) : String × String :=
  match Text.cutChars '=' part with
  | some (name, value) => (formDecode name, formDecode value)
  | none => (formDecode part, "")

/-- The pairs of a form in order; empty parts are left out. -/
def formRead (query : String) : List (String × String) :=
  ((Text.splitChars '&' query.toList).filter fun part => !part.isEmpty).map formPair

end FleetSearch.Url
