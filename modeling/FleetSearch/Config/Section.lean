import FleetSearch.Config.Settings
import FleetSearch.Unicode.Blank
import FleetSearch.Yaml.Printer

/-! The option values of a section as text. -/

namespace FleetSearch.Config

/-- A value as text: scalars by themselves, collections as a document. -/
def renderValue : Yaml.Value → Option String
  | .null => none
  | .bool true => some "true"
  | .bool false => some "false"
  | .integer value => some (Text.signedDecimal value)
  | .float value => some (Yaml.layout.write value)
  | .string text => some text
  | collection => some (Unicode.trim collection.write)

/-- The text of an option in a section; an empty text counts as no value. -/
def Section.get? (part : Section) (name : String) : Option String :=
  ((Entries.get? name part.options).bind renderValue).filter (· ≠ "")

end FleetSearch.Config
