import FleetSearch.Entries
import FleetSearch.Yaml.Value

/-! The settings of the service. -/

namespace FleetSearch.Config

/-- The settings of the instance cache. -/
structure CacheSettings where
  /-- No reads; live results are still written. -/
  disabled : Bool := false
  /-- The lifetime of an entry in seconds; zero keeps it forever. -/
  ttl : Nat := 600
  /-- The file of the store, if not the default one. -/
  path : Option String := none

/-- The settings of the web service. -/
structure ServerSettings where
  port : Nat := 8080
  bindAddress : String := "127.0.0.1"
  responseCacheTtl : Nat := 600
  responseCacheCapacity : Nat := 100

/-- The settings of requests to providers. -/
structure OutgoingSettings where
  requestTimeout : Decimal.Binary64 := .ofInt 10
  verifyTls : Bool := true
  userAgent : String := "honey-rs/0.1.0"

/-- A named section for one backend. -/
structure Section where
  kind : Option String := none
  options : Entries Yaml.Value := []

structure Settings where
  debug : Bool := false
  cache : CacheSettings := {}
  server : ServerSettings := {}
  outgoing : OutgoingSettings := {}
  backends : Entries Section := []

namespace Section

/-- The backend a section selects; an empty name selects none. -/
def type? (part : Section) : Option String :=
  part.kind.filter (· ≠ "")

end Section

namespace Settings

def section? (settings : Settings) (name : String) : Option Section :=
  Entries.get? name settings.backends

/-- The sections that select a backend, with its name, in the order of the section names. -/
def typedSections (settings : Settings) : List (String × String) :=
  settings.backends.filterMap fun (name, part) => part.type?.map fun kind => (name, kind)

end Settings

end FleetSearch.Config
