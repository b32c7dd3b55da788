/-! Requests to provider services, before they are put into the form in which they are sent. -/

namespace FleetSearch.Network

structure Request where
  url : String
  headers : List (String × String) := []
  params : List (String × String) := []
deriving DecidableEq, Repr

namespace Request

def header (request : Request) (name value : String) : Request :=
  { request with headers := request.headers ++ [(name, value)] }

def param (request : Request) (name value : String) : Request :=
  { request with params := request.params ++ [(name, value)] }

/-- Adds a header that is only sent with a nonempty value. -/
def headerIfAny (request : Request) (name value : String) : Request :=
  if value = "" then request else request.header name value

/-- Adds a parameter that is only sent with a nonempty value. -/
def paramIfAny (request : Request) (name value : String) : Request :=
  if value = "" then request else request.param name value

/-- Adds a bearer token; an empty one adds nothing. -/
def bearer (request : Request) (token : String) : Request :=
  if token = "" then request else request.header "Authorization" ("Bearer " ++ token)

end Request

end FleetSearch.Network
