import FleetSearch.Decimal.Binary64

/-! Values of YAML documents. -/

namespace FleetSearch.Yaml

/-- A value without tags or aliases. Mappings keep their pairs in the order of the document. -/
inductive Value where
  | null
  | bool (value : Bool)
  | integer (value : Int)
  | float (value : Decimal.Binary64)
  | string (text : String)
  | sequence (items : List Value)
  | mapping (pairs : List (Value × Value))
deriving Repr, Inhabited, BEq

end FleetSearch.Yaml
