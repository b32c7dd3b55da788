import FleetSearch.Cache.Lifetime

/-! The store of the cache: texts with deadlines in places, and the statements that read and write
it. A statement takes effect as a whole. -/

namespace FleetSearch.Cache

/-- Where a text is kept. -/
structure Place where
  bucket : String
  key : String
deriving DecidableEq, Repr

/-- A kept text. Without a deadline it is kept forever. -/
structure Row where
  text : String
  deadline : Option Nat
deriving DecidableEq, Repr

def Row.isExpired (row : Row) (now : Nat) : Bool :=
  match row.deadline with
  | some moment => decide (moment ≤ now)
  | none => false

/-- Rows in their places, at most one in each. -/
structure Store where
  rows : List (Place × Row) := []
  isOpen : Bool := true
deriving DecidableEq, Repr

namespace Store

/-- The row in a place, expired or not. -/
def row? (store : Store) (place : Place) : Option Row :=
  store.rows.lookup place

/-- Leaves a place without a row. -/
def erase (store : Store) (place : Place) : Store :=
  { store with rows := store.rows.filter fun entry => entry.1 ≠ place }

/-- Puts a row in a place, instead of an earlier one. -/
def insert (store : Store) (place : Place) (row : Row) : Store :=
  { store with rows := (place, row) :: (store.erase place).rows }

/-- Leaves out the rows whose deadlines have come by a moment. -/
def eraseExpired (store : Store) (moment : Nat) : Store :=
  { store with rows := store.rows.filter fun entry => !entry.2.isExpired moment }

def size (store : Store) : Nat := store.rows.length

def close (store : Store) : Store := { store with isOpen := false }

end Store

end FleetSearch.Cache
