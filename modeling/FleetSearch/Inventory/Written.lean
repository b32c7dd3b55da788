import FleetSearch.Inventory.Instance
import FleetSearch.Json.Write

/-! The text under which a collection is stored: one object per instance, its parts in order. -/

namespace FleetSearch.Inventory

def Instance.chars (item : Instance) : List Char :=
  '\x7b' :: Json.commaSeparated (Json.membersChars item.members) ++ ['\x7d']

def Collection.write (items : Collection) : String :=
  String.ofList ('[' :: Json.commaSeparated (items.map Instance.chars) ++ [']'])

end FleetSearch.Inventory
