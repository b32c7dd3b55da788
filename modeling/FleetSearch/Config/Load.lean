import FleetSearch.Config.Document
import FleetSearch.Config.Environment

/-! Where settings and the cache are kept, and loading of the settings. -/

namespace FleetSearch.Config

inductive File where
  | text (content : String)
  | directory
deriving Inhabited

def within (directory path : String) : String :=
  if directory.endsWith "/" then directory ++ path else directory ++ "/" ++ path

def homeDirectory? (environment : Environment) : Option String :=
  environment.nonempty? "HOME"

/-- The directory for settings of the user; a relative one does not count. -/
def configDirectory? (environment : Environment) : Option String :=
  match (environment "XDG_CONFIG_HOME").filter (·.startsWith "/") with
  | some directory => some directory
  | none => (homeDirectory? environment).map (within · ".config")

/-- Where settings may be, most specific first. -/
def settingsPaths (environment : Environment) : List String :=
  (environment "HONEY_SETTINGS_PATH").toList ++ ["honey.yml", "config/honey.yml"] ++
    ((configDirectory? environment).map (within · "honey/honey.yml")).toList

def storePath? (environment : Environment) : Option String :=
  (homeDirectory? environment).map (within · ".cache/honey-cachedb/cache.db")

/-- Why settings cannot be loaded. -/
inductive LoadError where
  /-- The file cannot be read. -/
  | unreadable
  /-- The text spells no settings. -/
  | malformed
deriving DecidableEq, Repr

/-- The settings of the first path at which anything is found, or else the defaults, under the
variables that override them. -/
def load (file? : String → Option File) (environment : Environment) : Except LoadError Settings :=
  match (settingsPaths environment).findSome? file? with
  | some (.text content) =>
    match Settings.read? content with
    | some settings => .ok (settings.override environment)
    | none => .error .malformed
  | some .directory => .error .unreadable
  | none => .ok (Settings.override {} environment)

end FleetSearch.Config
