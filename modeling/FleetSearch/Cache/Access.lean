import FleetSearch.Cache.Store

/-! Access to the store, step by step. A step is one statement or one look at the clock; between
two steps of one access others may take steps on the same store. -/

namespace FleetSearch.Cache

/-- Why the cache does not do what it is asked. -/
inductive CacheError where
  /-- There is no row in force. -/
  | miss
  /-- The text in the row spells no value of the wanted type. -/
  | corrupt
  /-- The value has no text. -/
  | encode
  | storage
  /-- The directory of the store cannot be made. -/
  | directory
deriving DecidableEq, Repr

/-- The text of the error, where it is not in the words of other software. -/
def CacheError.message? : CacheError → Option String
  | .miss => some "cache miss"
  | _ => none

/-- What remains of an access with a result. -/
inductive Access (α : Type) where
  | done (result : α)
  | clock (next : Nat → Access α)
  | select (place : Place) (next : Except CacheError (Option Row) → Access α)
  | insert (place : Place) (row : Row) (next : Except CacheError Unit → Access α)
  | erase (place : Place) (next : Except CacheError Unit → Access α)
  | eraseExpired (moment : Nat) (next : Except CacheError Nat → Access α)

namespace Access

variable {α β : Type}

def bind (next : α → Access β) : Access α → Access β
  | .done result => next result
  | .clock rest => .clock fun now => (rest now).bind next
  | .select place rest => .select place fun reply => (rest reply).bind next
  | .insert place row rest => .insert place row fun reply => (rest reply).bind next
  | .erase place rest => .erase place fun reply => (rest reply).bind next
  | .eraseExpired moment rest => .eraseExpired moment fun reply => (rest reply).bind next

instance : Monad Access where
  pure := .done
  bind access next := access.bind next

/-- What a statement answers; on a closed store it fails. -/
def reply (store : Store) (answer : α) : Except CacheError α :=
  if store.isOpen then .ok answer else .error .storage

/-- The store after a statement; a closed one does not change. -/
def changed (store next : Store) : Store :=
  if store.isOpen then next else store

def step (now : Nat) (store : Store) : Access α → Access α × Store
  | .done result => (.done result, store)
  | .clock next => (next now, store)
  | .select place next => (next (reply store (store.row? place)), store)
  | .insert place row next => (next (reply store ()), changed store (store.insert place row))
  | .erase place next => (next (reply store ()), changed store (store.erase place))
  | .eraseExpired moment next =>
    (next (reply store (store.size - (store.eraseExpired moment).size)),
      changed store (store.eraseExpired moment))

/-- Takes all steps at one moment, with nothing in between. -/
def run (now : Nat) (store : Store) : Access α → α × Store
  | .done result => (result, store)
  | .clock next => (next now).run now store
  | .select place next => (next (reply store (store.row? place))).run now store
  | .insert place row next =>
    (next (reply store ())).run now (changed store (store.insert place row))
  | .erase place next => (next (reply store ())).run now (changed store (store.erase place))
  | .eraseExpired moment next =>
    (next (reply store (store.size - (store.eraseExpired moment).size))).run now
      (changed store (store.eraseExpired moment))

end Access

end FleetSearch.Cache
