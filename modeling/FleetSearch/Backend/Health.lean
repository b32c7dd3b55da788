import FleetSearch.Json.Decode

/-! The health of a node: that of the worst of its checks. -/

namespace FleetSearch.Backend

open FleetSearch.Json (Decoder)

inductive Health where
  | passing
  | warning
  | critical
  | maintenance
deriving DecidableEq, Repr

namespace Health

/-- The place in the order from good to bad. -/
def rank : Health → Nat
  | .passing => 0
  | .warning => 1
  | .critical => 2
  | .maintenance => 3

def worse (left right : Health) : Health :=
  if left.rank < right.rank then right else left

def status : Health → String
  | .passing => "passing"
  | .warning => "warning"
  | .critical => "critical"
  | .maintenance => "maintenance"

end Health

/-- The outcome of one check of a node. -/
structure HealthCheck where
  id : String := ""
  status : String := ""
deriving DecidableEq, Repr

namespace HealthCheck

/-- Reads a check, as an object or as an array of its parts. -/
def decode : Decoder HealthCheck := fun depth term => do
  match ← Decoder.record ["CheckID", "Status"] depth term with
  | [id, status] =>
    let inner := depth - 1
    some
      { id := ← Decoder.withDefault Decoder.text "" inner id
        status := ← Decoder.withDefault Decoder.text "" inner status }
  | _ => none

def marksMaintenance (check : HealthCheck) : Bool :=
  check.id == "_node_maintenance" || "_service_maintenance:".toList.isPrefixOf check.id.toList

/-- What the check alone says; words that it does not know count as passing. -/
def health (check : HealthCheck) : Health :=
  if check.marksMaintenance then .maintenance
  else if check.status = "critical" then .critical
  else if check.status = "warning" then .warning
  else .passing

end HealthCheck

def Health.ofChecks (checks : List HealthCheck) : Health :=
  checks.foldl (fun found check => found.worse check.health) .passing

end FleetSearch.Backend
