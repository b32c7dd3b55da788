import FleetSearch.Backend.Cause
import FleetSearch.Inventory.Instance

/-! Backends, and how a query to one goes when nobody interrupts it. -/

namespace FleetSearch

namespace Backend

inductive Ending where
  | returns (items : Inventory.Collection)
  | fails (cause : Cause)
  | panics (words : String)
  | never

/-- The course of a query: how long it takes in milliseconds and how it ends. -/
structure Course where
  delay : Nat := 0
  ending : Ending

end Backend

structure Backend where
  name : String
  /-- The key of a pattern's answer in the cache; it covers all that changes the answer. -/
  cacheKey : String → String
  /-- The course of a query for a pattern, given how many queries of this kind went before. -/
  list : String → Nat → Backend.Course

end FleetSearch
