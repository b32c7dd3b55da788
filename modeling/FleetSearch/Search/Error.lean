import FleetSearch.Config.Error

/-! Why a search fails, and which backend is to blame. -/

namespace FleetSearch.Search

open FleetSearch.Backend (Cause RegistryError)

/-- Why a search fails. -/
inductive SearchError where
  | noBackends
  | unknownBackend (error : RegistryError)
  | config (error : Config.ConfigError)
  | init (backend : String) (cause : Cause)
  | query (backend : String) (cause : Cause)
  | cancelled
  | abandoned
deriving DecidableEq, Repr

namespace SearchError

/-- The text of the error; `none` where a part of it is in the words of other software. -/
def message? : SearchError → Option String
  | .noBackends => some "no backends requested"
  | .unknownBackend error => some error.message
  | .config error => some error.message
  | .init backend cause =>
    cause.message?.map fun words =>
      "failed to initialize backend " ++ Text.quote backend ++ ": " ++ words
  | .query backend cause =>
    cause.message?.map fun words => "backend " ++ Text.quote backend ++ " failed: " ++ words
  | .cancelled => some "find was cancelled"
  | .abandoned => none

def blamed? : SearchError → Option String
  | .init backend _ => some backend
  | .query backend _ => some backend
  | .unknownBackend (.notFound name) => some name
  | _ => none

end SearchError

end FleetSearch.Search
