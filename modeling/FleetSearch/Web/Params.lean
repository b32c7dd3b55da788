import FleetSearch.Search.Request
import FleetSearch.Text.Digits
import FleetSearch.Url.Form

/-! The parameters of the endpoints, read from the query of an address. -/

namespace FleetSearch.Web

/-- The parameters of a search for instances. -/
structure Params where
  filter : String := ""
  backends : List String := []
  keys : List String := []
  /-- The first row to show. -/
  start : Nat := 0
  stop : Option Nat := none
  noCache : Bool := false
deriving DecidableEq, Repr

/-- A parameter that should be a row number and is none. -/
structure BadIndex where
  name : String
deriving DecidableEq, Repr

def BadIndex.message (error : BadIndex) : String :=
  error.name ++ " must be a non-negative integer"

/-- The nonblank parts of a text between commas, without blanks at their ends. -/
def splitList (text : String) : List String :=
  ((Text.split ',' text).map Unicode.trim).filter (· ≠ "")

def index (name value : String) : Except BadIndex Nat :=
  match Text.word64? (Unicode.trim value) with
  | some number => .ok number
  | none => .error ⟨name⟩

def isOn (value : String) : Bool :=
  value == "" || value == "1" || value == "true"

namespace Params

/-- Takes in one pair of a query. Lists grow; of other parameters the last one counts. -/
def add (params : Params) (pair : String × String) : Except BadIndex Params :=
  match pair with
  | ("filter", value) => .ok { params with filter := value }
  | ("backend", value) => .ok { params with backends := params.backends ++ splitList value }
  | ("key", value) => .ok { params with keys := params.keys ++ splitList value }
  | ("_start", value) => (index "_start" value).map fun number => { params with start := number }
  | ("_end", value) => (index "_end" value).map fun number => { params with stop := some number }
  | ("no_cache", value) => .ok { params with noCache := isOn value }
  | _ => .ok params

/-- The parameters of pairs in order. -/
def ofPairs (pairs : List (String × String)) : Except BadIndex Params :=
  pairs.foldlM add {}

def read (query : Option String) : Except BadIndex Params :=
  ofPairs (Url.formRead (query.getD ""))

def request (params : Params) : Search.Request :=
  { backends := params.backends, pattern := params.filter, noCache := params.noCache }

/-- The keys to show, or the given ones if the parameters name none. -/
def keysOr (params : Params) (default : List String) : List String :=
  if params.keys.isEmpty then default else params.keys

/-- The key under which the response is remembered; the order of the backends does not count. -/
def memoKey (params : Params) : String :=
  let backends := params.backends.mergeSort fun first second => decide (first ≤ second)
  params.filter ++ "|" ++ Text.join "," backends

end Params

end FleetSearch.Web
