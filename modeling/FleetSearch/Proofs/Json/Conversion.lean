import FleetSearch.Json.Write
import FleetSearch.Proofs.Json.Values

/-! Data of any kind, described part by part, and the value that is made of it. The keys of a map
can be anything, and only some of them have a text, so a value need not come of it; but the
description of a value has one, the value itself. -/

namespace FleetSearch.Json

/-- Data described part by part: a map has members with keys of any kind, and a record has fields
with names. -/
inductive Shape where
  | nothing
  | truth (value : Bool)
  | number (value : Number)
  | text (value : String)
  | sequence (items : List Shape)
  | map (members : List (Shape × Shape))
  | record (fields : List (String × Shape))

namespace Shape

/-- The text of a key, if it has one. -/
def key? : Shape → Option String
  | .truth value => some (if value then "true" else "false")
  | .number value => some value.write
  | .text value => some value
  | _ => none

mutual

/-- The value of data. Of members or fields with one key the last counts. -/
def value? : Shape → Option Value
  | .nothing => some .null
  | .truth value => some (.bool value)
  | .number value => some (.number value)
  | .text value => some (.string value)
  | .sequence items => (itemValues? items).map .array
  | .map members => (memberValues? members).map Value.ofMembers
  | .record fields => (fieldValues? fields).map Value.ofMembers

def itemValues? : List Shape → Option (List Value)
  | [] => some []
  | item :: rest => do
    let value ← item.value?
    let values ← itemValues? rest
    some (value :: values)

def memberValues? : List (Shape × Shape) → Option (List (String × Value))
  | [] => some []
  | (key, member) :: rest => do
    let name ← key.key?
    let value ← member.value?
    let values ← memberValues? rest
    some ((name, value) :: values)

def fieldValues? : List (String × Shape) → Option (List (String × Value))
  | [] => some []
  | (name, field) :: rest => do
    let value ← field.value?
    let values ← fieldValues? rest
    some ((name, value) :: values)

end

mutual

/-- The description of a value. -/
def ofValue : Value → Shape
  | .null => .nothing
  | .bool value => .truth value
  | .number value => .number value
  | .string value => .text value
  | .array items => .sequence (itemShapes items)
  | .object members => .map (memberShapes members)

def itemShapes : List Value → List Shape
  | [] => []
  | item :: rest => ofValue item :: itemShapes rest

def memberShapes : List (String × Value) → List (Shape × Shape)
  | [] => []
  | (key, value) :: rest => (.text key, ofValue value) :: memberShapes rest

end

mutual

theorem value?_ofValue : ∀ {value : Value}, value.Every Value.IsSorted →
    (ofValue value).value? = some value
  | .null, _ => rfl
  | .bool _, _ => rfl
  | .number _, _ => rfl
  | .string _, _ => rfl
  | .array items, sorted => by
    rw [ofValue, value?, itemValues?_itemShapes sorted.2, Option.map_some]
  | .object members, sorted => by
    have same : Value.ofMembers members = .object members :=
      congrArg Value.object (Entries.ofPairs_of_sorted sorted.1)
    rw [ofValue, value?, memberValues?_memberShapes sorted.2, Option.map_some, same]

theorem itemValues?_itemShapes : ∀ {items : List Value}, ItemsEvery Value.IsSorted items →
    itemValues? (itemShapes items) = some items
  | [], _ => rfl
  | item :: rest, sorted => by
    simp [itemShapes, itemValues?, value?_ofValue sorted.1, itemValues?_itemShapes sorted.2]

theorem memberValues?_memberShapes : ∀ {members : List (String × Value)},
    MembersEvery Value.IsSorted members → memberValues? (memberShapes members) = some members
  | [], _ => rfl
  | (key, value) :: rest, sorted => by
    simp [memberShapes, memberValues?, key?, value?_ofValue sorted.1,
      memberValues?_memberShapes sorted.2]

end

end Shape

end FleetSearch.Json
