import FleetSearch.Backend.Basic
import FleetSearch.Backend.Parameter
import FleetSearch.Config.Values
import FleetSearch.Network.Client

/-! What the service knows about a kind of backend before it builds one. -/

namespace FleetSearch.Backend

/-- Builds a backend from its option values. -/
abbrev Factory := Config.Values → Network.Client → Except Cause Backend

structure Descriptor where
  name : String
  /-- A second name, which also goes before the names of its options. -/
  shortName : String
  description : String
  /-- The declared options in display order. -/
  parameters : List Parameter := []
  factory : Factory

namespace Descriptor

def named (name : String) (factory : Factory) : Descriptor :=
  { name, shortName := name, description := name, factory }

/-- Sets the short name; an empty one changes nothing. -/
def withShortName (descriptor : Descriptor) (shortName : String) : Descriptor :=
  if shortName = "" then descriptor else { descriptor with shortName }

def withDescription (descriptor : Descriptor) (description : String) : Descriptor :=
  { descriptor with description }

def withParameter (descriptor : Descriptor) (parameter : Parameter) : Descriptor :=
  { descriptor with parameters := descriptor.parameters ++ [parameter] }

/-- The first declared option with a name. -/
def parameter? (descriptor : Descriptor) (name : String) : Option Parameter :=
  descriptor.parameters.find? (·.name == name)

def answersTo (descriptor : Descriptor) (name : String) : Bool :=
  descriptor.name == name || descriptor.shortName == name

end Descriptor

end FleetSearch.Backend
