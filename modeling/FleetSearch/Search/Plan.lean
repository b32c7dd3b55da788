import FleetSearch.Backend.Descriptor
import FleetSearch.Cache.Values
import FleetSearch.Config.Resolver
import FleetSearch.Inventory.Collector
import FleetSearch.Inventory.Written
import FleetSearch.Search.Error
import FleetSearch.Search.Request

/-! The preparation of a search: every identifier becomes a hit in the cache or a live query, in
order, and the first one that cannot be prepared fails the search before anything is queried. -/

namespace FleetSearch.Search

open FleetSearch.Cache (Access Place)
open FleetSearch.Inventory (Collection Collector)

/-- What searches are run with. -/
structure Finder where
  registry : Backend.Registry
  resolver : Config.Resolver
  client : Network.Client
  isCaching : Bool := true
  lifetime : Cache.Lifetime

/-- A query that the cache has no answer to. -/
structure Query where
  identifier : String
  key : String
  backend : Backend

def Query.place (query : Query) : Place := ⟨query.identifier, query.key⟩

/-- What a search has come to after preparation. -/
structure Plan where
  hits : Collector := {}
  pending : List Query := []

/-- Two targets are the same if their backends have one name and one section configures both. -/
abbrev TargetKey := String × String

namespace Finder

/-- The finder of these parts, with the lifetime that the settings give. -/
def ofParts (registry : Backend.Registry) (resolver : Config.Resolver) (client : Network.Client)
    (isCaching : Bool) : Finder :=
  { registry, resolver, client, isCaching
    lifetime := .ofSeconds resolver.settings.cache.ttl }

def readsCache (finder : Finder) (request : Request) : Bool :=
  finder.isCaching && !request.noCache && !finder.resolver.settings.cache.disabled

def instantiate (finder : Finder) (identifier : String) (target : Config.Target) :
    Except SearchError Backend :=
  match finder.resolver.resolve target.descriptor target.part with
  | .error error => .error (.config error)
  | .ok values =>
    match target.descriptor.factory values finder.client with
    | .error cause => .error (.init identifier cause)
    | .ok backend => .ok backend

/-- The collection in a place of the cache; whatever goes wrong, there is none. -/
def cached? (place : Place) : Access (Option Collection) :=
  (Cache.get Collection.decode place).bind fun found => .done found.toOption

def planned (finder : Finder) (request : Request) (plan : Plan) (identifier : String)
    (backend : Backend) : Access Plan :=
  let query : Query := ⟨identifier, backend.cacheKey request.pattern, backend⟩
  let live : Plan := { plan with pending := plan.pending ++ [query] }
  if finder.readsCache request then
    (cached? query.place).bind fun
      | some items => .done { plan with hits := plan.hits.add items }
      | none => .done live
  else .done live

/-- Prepares identifiers one after another. One with a target that an earlier one had is left
out. -/
def planFrom (finder : Finder) (request : Request) (seen : List TargetKey) (plan : Plan) :
    List String → Access (Except SearchError Plan)
  | [] => .done (.ok plan)
  | identifier :: rest =>
    match finder.resolver.target finder.registry identifier with
    | .error error => .done (.error (.unknownBackend error))
    | .ok target =>
      let key : TargetKey := (target.descriptor.name, target.part)
      if key ∈ seen then planFrom finder request seen plan rest
      else match finder.instantiate identifier target with
        | .error error => .done (.error error)
        | .ok backend =>
          (finder.planned request plan identifier backend).bind fun plan =>
            planFrom finder request (key :: seen) plan rest

def plan (finder : Finder) (request : Request) : Access (Except SearchError Plan) :=
  match request.identifiers with
  | [] => .done (.error .noBackends)
  | identifiers => finder.planFrom request [] {} identifiers

end Finder

end FleetSearch.Search
