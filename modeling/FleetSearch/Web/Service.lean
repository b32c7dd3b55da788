import FleetSearch.Inventory.Flat
import FleetSearch.Search.Timeline
import FleetSearch.Web.Memo
import FleetSearch.Web.Params

/-! The endpoints of the service. -/

namespace FleetSearch.Web

open FleetSearch.Inventory (Row)
open FleetSearch.Json (Value)
open FleetSearch.Search (Finder SearchError Shared)

/-- The service between two requests. -/
structure Service where
  finder : Finder
  memo : Memo (List Row)
  shared : Shared := {}

/-- What an endpoint answers. -/
structure Answer where
  status : Nat := 200
  /-- How many rows there are, shown or not. -/
  total : Option Nat := none
  body : Value

/-- A request that an endpoint cannot serve. -/
def Answer.refusal (message : String) : Answer :=
  { status := 400, body := .ofMembers [("error", .string message)] }

def Answer.failure (error : SearchError) : Answer :=
  .refusal (error.message?.getD "search failed")

def rowsValue (rows : List Row) : Value :=
  .array (rows.map .object)

/-- How many rows a page shows if it does not say where to stop. -/
def defaultStop : Nat := 10

/-- The rows from one place up to another, as far as there are such rows. -/
def page (start : Nat) (stop : Option Nat) (rows : List Row) : List Row :=
  let stop := min (stop.getD defaultStop) rows.length
  let start := min start stop
  (rows.drop start).take (stop - start)

/-- The keys of an instance's row that a page shows: the raw object is always among them. -/
def pageKeys (params : Params) : List String :=
  let keys := params.keysOr Inventory.columns
  if keys.contains Inventory.rawKey then keys else keys ++ [Inventory.rawKey]

def pageAnswer (params : Params) (data : List Row) : Answer :=
  let rows := Inventory.projectAll (pageKeys params) data
  { total := some rows.length, body := rowsValue (page params.start params.stop rows) }

def backendEntry (id kind : String) : Value :=
  .ofMembers [("id", .string id), ("name", .string id), ("type", .string kind)]

def version : String := "0.1.0"

def healthAnswer : Answer :=
  { body := .ofMembers [("status", .string "ok"), ("version", .string version)] }

namespace Service

/-- Searches without interruption. -/
def find (service : Service) (request : Search.Request) :
    Option (Except SearchError Inventory.Collection) × Service :=
  let (result, shared) := service.finder.find request none service.shared
  (result, { service with shared })

/-- The endpoint for searches: all rows, reduced to the wanted keys. -/
def search (service : Service) (query : Option String) : Option Answer × Service :=
  match Params.read query with
  | .error error => (some (.refusal error.message), service)
  | .ok params =>
    let (result, service) := service.find params.request
    let answer := result.map fun
      | .error error => Answer.failure error
      | .ok items =>
        let rows := Inventory.projectAll (params.keysOr Inventory.columns) items.flatten
        { total := some rows.length, body := rowsValue rows }
    (answer, service)

/-- What is remembered for parameters, if they allow it. -/
def remembered? (service : Service) (params : Params) : Option (List Row) :=
  if params.noCache then none else service.memo.get? service.shared.now params.memoKey

def remember (service : Service) (params : Params) (data : List Row) : Service :=
  { service with memo := service.memo.insert service.shared.now params.memoKey data }

/-- The endpoint for instances: a page of rows. Results are remembered, so that the pages of one
search show the same instances. -/
def instances (service : Service) (query : Option String) : Option Answer × Service :=
  match Params.read query with
  | .error error => (some (.refusal error.message), service)
  | .ok params =>
    match service.remembered? params with
    | some data => (some (pageAnswer params data), service)
    | none =>
      match service.find params.request with
      | (none, service) => (none, service)
      | (some (.error error), service) => (some (.failure error), service)
      | (some (.ok items), service) =>
        (some (pageAnswer params items.flatten), service.remember params items.flatten)

/-- The endpoint for backends: the sections that select one, and then all registered ones. -/
def backends (service : Service) : Answer :=
  let parts := service.finder.resolver.settings.typedSections.map fun (name, kind) =>
    backendEntry name kind
  let entries := parts ++ service.finder.registry.names.map fun name => backendEntry name name
  { total := some entries.length, body := .array entries }

end Service

end FleetSearch.Web
