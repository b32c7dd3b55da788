import FleetSearch.Json.Decode
import FleetSearch.Unicode.Blank

/-! What a search asks for. -/

namespace FleetSearch.Search

open FleetSearch.Json (Decoder)

/-- A request for instances whose names match a pattern. -/
structure Request where
  /-- Registered names, short names or names of sections. -/
  backends : List String
  pattern : String
  /-- No reads from the cache; live results are still written. -/
  noCache : Bool := false
deriving DecidableEq, Repr

/-- The members of a list without those that an earlier list holds and without repetitions, each
at its first place. -/
def distinctAfter (earlier : List String) : List String → List String
  | [] => []
  | name :: rest =>
    if name ∈ earlier then distinctAfter earlier rest
    else name :: distinctAfter (name :: earlier) rest

namespace Request

/-- The identifiers without blanks at their ends, each nonempty one at its first place. -/
def identifiers (request : Request) : List String :=
  distinctAfter [] ((request.backends.map Unicode.trim).filter (· ≠ ""))

/-- Reads a request, as an object or as an array of its parts. -/
def decode : Decoder Request := fun depth term => do
  match ← Decoder.record ["backends", "pattern", "no_cache"] depth term with
  | [backends, pattern, noCache] =>
    let inner := depth - 1
    some
      { backends := ← Decoder.required (Decoder.list Decoder.text) inner backends
        pattern := ← Decoder.required Decoder.text inner pattern
        noCache := ← Decoder.withDefault Decoder.bool false inner noCache }
  | _ => none

end Request

end FleetSearch.Search
