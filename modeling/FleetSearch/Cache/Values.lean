import FleetSearch.Cache.Access
import FleetSearch.Json.Decode
import FleetSearch.Json.Read

/-! What the cache is used for: values as texts under a bucket and a key, each for a lifetime. -/

namespace FleetSearch.Cache

/-- The text in force in a place. An expired row is dropped on the way. -/
def textInForce (place : Place) : Access (Except CacheError String) :=
  .select place fun
    | .error error => .done (.error error)
    | .ok none => .done (.error .miss)
    | .ok (some row) => .clock fun now =>
      if row.isExpired now then .erase place fun _ => .done (.error .miss)
      else .done (.ok row.text)

def spelled {α : Type} (decode : Json.Decoder α) (text : String) : Except CacheError α :=
  match (Json.Term.read? text).bind (decode Json.depthLimit) with
  | some value => .ok value
  | none => .error .corrupt

def get {α : Type} (decode : Json.Decoder α) (place : Place) : Access (Except CacheError α) :=
  (textInForce place).bind fun found => .done (found.bind (spelled decode))

/-- Keeps a value in a place, instead of an earlier one. -/
def put {α : Type} (encode : α → Option String) (place : Place) (value : α)
    (lifetime : Lifetime) : Access (Except CacheError Unit) :=
  match encode value with
  | none => .done (.error .encode)
  | some text => .clock fun now => .insert place ⟨text, lifetime.deadline? now⟩ .done

def delete (place : Place) : Access (Except CacheError Unit) :=
  .erase place .done

/-- Drops all that has expired; the result is how many rows there were. -/
def purgeExpired : Access (Except CacheError Nat) :=
  .clock fun now => .eraseExpired now .done

end FleetSearch.Cache
