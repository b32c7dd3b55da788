import FleetSearch.Json.Term

/-! Typed reading of documents. A reader takes the levels of nesting that are left; it ignores
members it does not know without looking into them. -/

namespace FleetSearch.Json

/-- A reader of documents of one type. -/
abbrev Decoder (α : Type) := Nat → Term → Option α

namespace Decoder

def value : Decoder Value := fun depth term => term.value? depth

def text : Decoder String
  | _, .string text => text
  | _, _ => none

def bool : Decoder Bool
  | _, .bool value => some value
  | _, _ => none

/-- A whole number below a bound. -/
def below (bound : Nat) : Decoder Nat
  | _, .number (some (.whole value)) =>
    if 0 ≤ value ∧ value < bound then some value.toNat else none
  | _, _ => none

def list {α : Type} (item : Decoder α) : Decoder (List α)
  | depth + 1, .array items => items.mapM (item depth)
  | _, _ => none

def optional {α : Type} (decoder : Decoder α) : Decoder (Option α)
  | _, .null => some none
  | depth, term => (decoder depth term).map some

def entries {α : Type} (decoder : Decoder α) : Decoder (Entries α)
  | depth + 1, .object members => do
    let pairs ← members.mapM fun (key, term) => do
      let value ← decoder depth term
      let name ← key
      some (name, value)
    some (Entries.ofPairs pairs)
  | _, _ => none

/-- The member with a name; `none` where there are two. -/
def field? (members : List (Option String × Term)) (name : String) : Option (Option Term) :=
  match members.filter fun member => member.1 = some name with
  | [] => some none
  | [(_, term)] => some (some term)
  | _ => none

/-- The parts of a record, in the order of the given names. A record is written as an object, or
as an array that lists the parts in order and may leave out the last ones. -/
def record (names : List String) : Decoder (List (Option Term))
  | _ + 1, .object members =>
    if members.all fun member => member.1.isSome then names.mapM (field? members) else none
  | _ + 1, .array items =>
    if items.length ≤ names.length then
      some (items.map some ++ List.replicate (names.length - items.length) none)
    else none
  | _, _ => none

def required {α : Type} (decoder : Decoder α) (depth : Nat) : Option Term → Option α
  | some term => decoder depth term
  | none => none

def withDefault {α : Type} (decoder : Decoder α) (default : α) (depth : Nat) :
    Option Term → Option α
  | some term => decoder depth term
  | none => some default

end Decoder

end FleetSearch.Json
