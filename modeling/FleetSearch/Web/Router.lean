import FleetSearch.Web.Service
import FleetSearch.Web.Target

/-! Requests and responses of the service. Pages of any origin may use it. -/

namespace FleetSearch.Web

open FleetSearch.Json (Value)

/-- A request. -/
structure Request where
  method : String := "GET"
  target : Target

/-- A request of these parts, if they can be parts of one. -/
def Request.ofParts? (method address : String) (headers : List (String × String)) :
    Option Request := do
  let target ← Target.read? address
  if Network.isToken method && headers.all fun (name, value) => (Network.header? name value).isSome
  then some { method, target } else none

/-- A response. -/
structure Response where
  status : Nat
  headers : Entries String
  body : Option Value

/-- The endpoints. -/
inductive Route where
  | search
  | instances
  | backends
  | health
deriving DecidableEq, Repr

def Route.ofPath? : String → Option Route
  | "/api/search" => some .search
  | "/api/instances" => some .instances
  | "/api/backends" => some .backends
  | "/health" => some .health
  | _ => none

def totalHeader : String := "x-total-count"

def allowed : List (String × String) := [("allow", "GET,HEAD")]

def commonHeaders : List (String × String) :=
  [("access-control-allow-origin", "*"),
    ("vary", "origin, access-control-request-method, access-control-request-headers")]

/-- The headers of responses to requests that are no preflights. -/
def exposingHeaders : List (String × String) :=
  ("access-control-expose-headers", totalHeader) :: commonHeaders

def preflightHeaders : List (String × String) :=
  [("access-control-allow-methods", "*"), ("access-control-allow-headers", "*")] ++ commonHeaders

namespace Response

/-- A response without a body. -/
def bare (status : Nat) (headers : List (String × String)) : Response :=
  { status, headers := Entries.ofPairs headers, body := none }

def preflight (route : Option Route) : Response :=
  bare 200 (preflightHeaders ++ if route.isSome then allowed else [])

def ofAnswer (answer : Answer) : Response :=
  let total := answer.total.toList.map fun count => (totalHeader, Text.decimal count)
  { status := answer.status
    headers := Entries.ofPairs (("content-type", "application/json") :: total ++ exposingHeaders)
    body := some answer.body }

end Response

namespace Service

def answer (service : Service) (query : Option String) : Route → Option Answer × Service
  | .search => service.search query
  | .instances => service.instances query
  | .backends => (some service.backends, service)
  | .health => (some healthAnswer, service)

/-- Responds to a request; there is no response where a search never ends. A response to a request
for the headers alone has no body. -/
def respond (service : Service) (request : Request) : Option Response × Service :=
  let route := Route.ofPath? request.target.path
  if request.method = "OPTIONS" then (some (.preflight route), service)
  else match route with
    | none => (some (.bare 404 exposingHeaders), service)
    | some route =>
      if request.method = "GET" then
        let (answer, service) := service.answer request.target.query route
        (answer.map .ofAnswer, service)
      else if request.method = "HEAD" then
        let (answer, service) := service.answer request.target.query route
        (answer.map fun answer => { Response.ofAnswer answer with body := none }, service)
      else (some (.bare 405 (allowed ++ exposingHeaders)), service)

end Service

end FleetSearch.Web
