import FleetSearch.Cache.Access
import FleetSearch.Config.Load
import FleetSearch.Text.Split

/-! The file of a store: when it can be opened. -/

namespace FleetSearch.Cache

open FleetSearch.Config (File)

/-- The directories that a path with these parts goes through, the outermost one first. -/
def ancestors : List String → List String
  | [] => []
  | [_] => []
  | part :: rest => part :: (ancestors rest).map fun path => part ++ "/" ++ path

def isBlocked (file? : String → Option File) (path : String) : Bool :=
  match file? path with
  | some (.text _) => true
  | _ => false

/-- Why no store can be opened at a path, if so. The directories on the way are made where they
are missing; the file itself may be missing or empty, but other text is no store. -/
def refusal? (file? : String → Option File) (path : String) : Option CacheError :=
  if ((ancestors (Text.split '/' path)).filter (· ≠ "")).any (isBlocked file?) then
    some .directory
  else match file? path with
    | some .directory => some .storage
    | some (.text content) => if content = "" then none else some .storage
    | none => if path = "" ∨ path.endsWith "/" then some .storage else none

end FleetSearch.Cache
