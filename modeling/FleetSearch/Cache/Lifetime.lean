/-! How long things are kept. Moments are milliseconds on a clock that ends at `lastMoment`. -/

namespace FleetSearch.Cache

/-- The last moment of the clock. -/
def lastMoment : Nat := Nat.pow 2 63 - 1

/-- A span of time. -/
structure Lifetime where
  nanoseconds : Nat
deriving DecidableEq, Repr

namespace Lifetime

def ofMillis (count : Nat) : Lifetime := ⟨count * Nat.pow 10 6⟩

def ofSeconds (count : Nat) : Lifetime := ⟨count * Nat.pow 10 9⟩

/-- The whole milliseconds of a span. -/
def millis (lifetime : Lifetime) : Nat := lifetime.nanoseconds / Nat.pow 10 6

/-- The moment at which something kept from `now` on expires. With no time at all it never does;
a span below a millisecond ends at once. -/
def deadline? (lifetime : Lifetime) (now : Nat) : Option Nat :=
  if lifetime.nanoseconds = 0 then none else some (min (now + lifetime.millis) lastMoment)

end Lifetime

end FleetSearch.Cache
