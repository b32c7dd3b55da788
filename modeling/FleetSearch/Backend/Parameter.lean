import FleetSearch.Text.Split
import FleetSearch.Unicode.Upper

/-! Options that a backend declares, and the names under which they can be given. -/

namespace FleetSearch.Backend

inductive Visibility where
  | visible
  | hideCommandLine
  | hideConfigurator
  | hideBoth
deriving DecidableEq, Repr

/-- A value shown as an example. -/
structure Example where
  value : String
  help : String
deriving DecidableEq, Repr

structure Parameter where
  name : String
  help : String
  default : Option String := none
  examples : List Example := []
  /-- It has to have a nonempty value. -/
  required : Bool := false
  isPassword : Bool := false
  advanced : Bool := false
  /-- Its flag, and one more variable, go by its bare name. -/
  isUnprefixed : Bool := false
  visibility : Visibility := .visible
deriving DecidableEq, Repr

def variableSpelling (name : String) : String :=
  Unicode.upper (Text.replaceChar '-' '_' name)

def environmentName (name : String) : String :=
  "HONEY_" ++ variableSpelling name

def sectionEnvironmentName (part name : String) : String :=
  "HONEY_CONFIG_" ++ variableSpelling (part ++ "_" ++ name)

namespace Parameter

def flag (parameter : Parameter) (shortName : String) : String :=
  let name := Text.replaceChar '_' '-' parameter.name
  if parameter.isUnprefixed then name else shortName ++ "-" ++ name

def environmentName (parameter : Parameter) (shortName : String) : String :=
  Backend.environmentName (shortName ++ "-" ++ parameter.name)

end Parameter

end FleetSearch.Backend
