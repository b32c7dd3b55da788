import FleetSearch.Backend.Descriptor
import FleetSearch.Text.Quoted

/-! The registered backends. No two of them share a name or a short name. -/

namespace FleetSearch.Backend

/-- Why a look-up or a registration fails. -/
inductive RegistryError where
  | notFound (name : String)
  | duplicate (name existing : String)
deriving DecidableEq, Repr

def RegistryError.message : RegistryError → String
  | .notFound name => "didn't find backend called " ++ Text.quote name
  | .duplicate name existing =>
    "backend " ++ Text.quote name ++ " collides with registered backend " ++ Text.quote existing

/-- Descriptors in the order of their registration. -/
structure Registry where
  descriptors : List Descriptor := []

namespace Registry

/-- The registry without backends. -/
def empty : Registry := {}

/-- The first registered backend that goes by the name or the short name of a new one. -/
def collision? (registry : Registry) (descriptor : Descriptor) : Option Descriptor :=
  registry.descriptors.find? fun other =>
    other.answersTo descriptor.name || other.answersTo descriptor.shortName

/-- Adds a backend unless its name or short name is taken. -/
def register (registry : Registry) (descriptor : Descriptor) : Except RegistryError Registry :=
  match registry.collision? descriptor with
  | some existing => .error (.duplicate descriptor.name existing.name)
  | none => .ok ⟨registry.descriptors ++ [descriptor]⟩

/-- A registry of backends; the first collision is the error. -/
def ofDescriptors (descriptors : List Descriptor) : Except RegistryError Registry :=
  descriptors.foldlM register empty

def find (registry : Registry) (name : String) : Except RegistryError Descriptor :=
  match registry.descriptors.find? (·.answersTo name) with
  | some descriptor => .ok descriptor
  | none => .error (.notFound name)

/-- The names in order. -/
def names (registry : Registry) : List String :=
  registry.descriptors.map Descriptor.name

end Registry

end FleetSearch.Backend
