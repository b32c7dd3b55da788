import FleetSearch.Config.Settings
import FleetSearch.Entries
import FleetSearch.Text.Digits

/-! The environment: variables with texts, and the settings that they override. -/

namespace FleetSearch.Config

/-- The values of environment variables. -/
abbrev Environment := String → Option String

namespace Environment

def ofEntries (entries : Entries String) : Environment := fun name => Entries.get? name entries

/-- The value of a variable, unless it is empty. -/
def nonempty? (environment : Environment) (name : String) : Option String :=
  (environment name).filter (· ≠ "")

end Environment

/-- A switch: on only if spelled `true`. -/
def isSwitchedOn (text : String) : Bool := text == "true"

namespace Settings

/-- Settings under the variables that override single ones. A switch that is set but not spelled
`true` is off; a number that cannot be read changes nothing. -/
def override (settings : Settings) (environment : Environment) : Settings :=
  { settings with
    debug := ((environment "HONEY_DEBUG").map isSwitchedOn).getD settings.debug
    cache :=
      { settings.cache with
        disabled := ((environment "HONEY_NO_CACHE").map isSwitchedOn).getD settings.cache.disabled
        ttl := ((environment "HONEY_CACHE_TTL").bind Text.word64?).getD settings.cache.ttl }
    server :=
      { settings.server with
        port := ((environment "HONEY_PORT").bind Text.word16?).getD settings.server.port
        bindAddress := (environment "HONEY_BIND_ADDRESS").getD settings.server.bindAddress } }

end Settings

end FleetSearch.Config
