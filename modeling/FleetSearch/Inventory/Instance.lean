import FleetSearch.Json.Decode
import FleetSearch.Json.Read

/-! Compute instances, the lists of them that backends answer with, and their projections. -/

namespace FleetSearch.Inventory

open FleetSearch.Json (Value Term Decoder)

/-- One discovered compute instance. -/
structure Instance where
  id : String
  backendName : String
  name : String
  kind : String := ""
  status : String := ""
  privateIp : String := ""
  publicIp : String := ""
  raw : Value := .null
deriving Repr, Inhabited

/-- Instances in the order in which they were listed. -/
abbrev Collection := List Instance

/-- The display columns in order. -/
def columns : List String :=
  ["id", "backend_name", "name", "type", "status", "private_ip", "public_ip"]

/-- The key of the provider's own object, which is no column. -/
def rawKey : String := "raw"

namespace Instance

/-- The texts of the display columns in order. -/
def row (item : Instance) : List String :=
  [item.id, item.backendName, item.name, item.kind, item.status, item.privateIp, item.publicIp]

/-- The members of an instance's object, in the order of its parts. -/
def members (item : Instance) : List (String × Value) :=
  columns.zip (item.row.map .string) ++ [(rawKey, item.raw)]

/-- Reads an instance, as an object or as an array of its parts. -/
def decode : Decoder Instance := fun depth term => do
  match ← Decoder.record (columns ++ [rawKey]) depth term with
  | [id, backendName, name, kind, status, privateIp, publicIp, raw] =>
    let inner := depth - 1
    some
      { id := ← Decoder.required Decoder.text inner id
        backendName := ← Decoder.required Decoder.text inner backendName
        name := ← Decoder.required Decoder.text inner name
        kind := ← Decoder.required Decoder.text inner kind
        status := ← Decoder.required Decoder.text inner status
        privateIp := ← Decoder.withDefault Decoder.text "" inner privateIp
        publicIp := ← Decoder.withDefault Decoder.text "" inner publicIp
        raw := ← Decoder.withDefault Decoder.value .null inner raw }
  | _ => none

end Instance

namespace Collection

def rows (items : Collection) : List (List String) :=
  items.map Instance.row

def decode : Decoder Collection := Decoder.list Instance.decode

/-- The collection that a whole text spells. -/
def read? (text : String) : Option Collection := do
  decode Json.depthLimit (← Json.Term.read? text)

/-- The collection that a value spells, however deep it nests. -/
def ofValue? (value : Value) : Option Collection :=
  decode value.nesting (.ofValue value)

end Collection

end FleetSearch.Inventory
