import FleetSearch.Decimal.Binary64
import FleetSearch.Entries

/-! JSON values. Objects keep their members in the order of the keys, each key once. -/

namespace FleetSearch.Json

/-- A number: whole from `-2 ^ 63` to `2 ^ 64 - 1`, and a finite double beyond that or with a
fraction or exponent. -/
inductive Number where
  | whole (value : Int)
  | double (value : Decimal.Binary64)
deriving DecidableEq, Repr, Inhabited

inductive Value where
  | null
  | bool (value : Bool)
  | number (value : Number)
  | string (value : String)
  | array (items : List Value)
  | object (members : List (String × Value))
deriving Repr, Inhabited

namespace Value

/-- A whole number as a value. -/
def whole (value : Int) : Value := .number (.whole value)

def natural (value : Nat) : Value := .number (.whole value)

/-- An object of members in any order. -/
def ofMembers (members : List (String × Value)) : Value :=
  .object (Entries.ofPairs members)

def ofText? : Option String → Value
  | some text => .string text
  | none => .null

def ofTexts (texts : List String) : Value :=
  .array (texts.map .string)

def member? (key : String) : Value → Option Value
  | .object members => Entries.get? key members
  | _ => none

end Value

end FleetSearch.Json
