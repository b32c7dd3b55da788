import FleetSearch.Inventory.Instance

/-! Instances as rows of named values, and projections of rows onto keys. -/

namespace FleetSearch.Inventory

open FleetSearch.Json (Value)

/-- A row: values by key. -/
abbrev Row := Entries Value

/-- The row of an instance: its columns and its raw object. -/
def Instance.flatten (item : Instance) : Row :=
  Entries.ofPairs item.members

def Collection.flatten (items : Collection) : List Row :=
  items.map Instance.flatten

/-- A row reduced to the given keys; a key it lacks is null. -/
def project (keys : List String) (row : Row) : Row :=
  Entries.ofPairs (keys.map fun key => (key, (Entries.get? key row).getD .null))

def projectAll (keys : List String) (rows : List Row) : List Row :=
  rows.map (project keys)

/-- The JSON object of an instance, with sorted keys. -/
def Instance.toValue (item : Instance) : Value :=
  .object item.flatten

def Collection.toValue (items : Collection) : Value :=
  .array (items.map Instance.toValue)

end FleetSearch.Inventory
