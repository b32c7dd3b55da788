import FleetSearch.Inventory.Instance

/-! The shared place where the results of several backends come together. -/

namespace FleetSearch.Inventory

/-- The instances added and not yet taken. -/
structure Collector where
  held : Collection := []

namespace Collector

def add (collector : Collector) (items : Collection) : Collector :=
  ⟨collector.held ++ items⟩

/-- All that is held; nothing is held afterwards. -/
def take (collector : Collector) : Collection × Collector :=
  (collector.held, {})

def size (collector : Collector) : Nat :=
  collector.held.length

end Collector

end FleetSearch.Inventory
