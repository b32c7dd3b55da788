import FleetSearch.Entries
import FleetSearch.Text.Quoted

/-! The option values that a backend is built from. -/

namespace FleetSearch.Config

structure Values where
  entries : Entries String := []
deriving DecidableEq, Repr

/-- A required option without a value. -/
structure NotSet where
  option : String

def NotSet.message (error : NotSet) : String :=
  "option " ++ Text.quote error.option ++ " is not set"

namespace Values

/-- Values of pairs; of pairs with one name the last counts. -/
def ofPairs (pairs : List (String × String)) : Values :=
  ⟨Entries.ofPairs pairs⟩

def get? (values : Values) (name : String) : Option String :=
  Entries.get? name values.entries

/-- The value of an option, or the empty text. -/
def getOrEmpty (values : Values) (name : String) : String :=
  (values.get? name).getD ""

/-- The nonempty value of an option. -/
def require (values : Values) (name : String) : Except NotSet String :=
  match values.get? name with
  | some value => if value = "" then .error ⟨name⟩ else .ok value
  | none => .error ⟨name⟩

def set (values : Values) (name value : String) : Values :=
  ⟨Entries.insert name value values.entries⟩

end Values

end FleetSearch.Config
