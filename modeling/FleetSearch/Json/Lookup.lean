import FleetSearch.Json.Write
import FleetSearch.Text.Split

/-! Paths into values: names of members and places of items with dots between them. -/

namespace FleetSearch.Json

/-- One step of a path: into an object by name, into an array by place. -/
def Value.step? (value : Value) (segment : String) : Option Value :=
  match value with
  | .object members => Entries.get? segment members
  | .array items => (Text.word64? segment).bind fun place => items[place]?
  | _ => none

def Value.follow? (value : Value) : List String → Option Value
  | [] => some value
  | segment :: rest => (value.step? segment).bind fun next => next.follow? rest

/-- What a path reaches; the empty path reaches the value itself. -/
def Value.lookup? (value : Value) (path : String) : Option Value :=
  if path = "" then some value else value.follow? (Text.split '.' path)

/-- A value as text: nothing for null, strings as they are, anything else as JSON. -/
def Value.render : Value → String
  | .null => ""
  | .string text => text
  | other => other.write

end FleetSearch.Json
