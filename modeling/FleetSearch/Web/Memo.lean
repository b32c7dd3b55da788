import FleetSearch.Config.Settings

/-! A memory of responses for a limited time. -/

namespace FleetSearch.Web

/-- Something remembered at a moment. -/
structure Remembered (α : Type) where
  value : α
  moment : Nat

/-- What is remembered, by keys. A capacity of zero switches the memory off; a larger one is a
bound for sweeps in the background, which no response waits for. -/
structure Memo (α : Type) where
  lifetime : Nat
  capacity : Nat
  entries : Entries (Remembered α) := []

/-- A lifetime above a thousand years. -/
structure BadLifetime where
  seconds : Nat

def longestLifetime : Nat := 1000 * 365 * 24 * 60 * 60

namespace Memo

variable {α : Type}

def ofSettings (settings : Config.ServerSettings) : Except BadLifetime (Memo α) :=
  if longestLifetime < settings.responseCacheTtl then .error ⟨settings.responseCacheTtl⟩
  else .ok
    { lifetime := settings.responseCacheTtl * 1000
      capacity := settings.responseCacheCapacity }

def get? (memo : Memo α) (now : Nat) (key : String) : Option α :=
  match Entries.get? key memo.entries with
  | some found => if now < found.moment + memo.lifetime then some found.value else none
  | none => none

/-- Remembers something under a key, instead of what was there. -/
def insert (memo : Memo α) (now : Nat) (key : String) (value : α) : Memo α :=
  if memo.capacity = 0 then memo
  else { memo with entries := Entries.insert key ⟨value, now⟩ memo.entries }

end Memo

end FleetSearch.Web
