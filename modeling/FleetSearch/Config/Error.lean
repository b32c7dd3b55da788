import FleetSearch.Backend.Registry

/-! Why the option values of a backend cannot be found. -/

namespace FleetSearch.Config

/-- Why no values are found. -/
inductive ConfigError where
  | missingOption (backend option : String)
  | registry (error : Backend.RegistryError)
deriving DecidableEq, Repr

def ConfigError.message : ConfigError → String
  | .missingOption backend option =>
    "backend " ++ Text.quote backend ++ " is missing required option " ++ Text.quote option
  | .registry error => error.message

end FleetSearch.Config
