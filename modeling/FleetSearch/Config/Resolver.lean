import FleetSearch.Config.Environment
import FleetSearch.Config.Error
import FleetSearch.Config.Section

/-! From the identifier of a backend to its descriptor and section, and from there to the values
of its options. -/

namespace FleetSearch.Config

open FleetSearch.Backend (Descriptor Parameter Registry RegistryError)

/-- A kind of backend and the section that configures it. -/
structure Target where
  descriptor : Descriptor
  part : String

/-- What option values are taken from. -/
structure Resolver where
  settings : Settings
  environment : Environment

namespace Resolver

/-- The target of an identifier. A section of that name with a type comes before a registered
backend of that name, so there can be several sections for one backend. -/
def target (resolver : Resolver) (registry : Registry) (identifier : String) :
    Except RegistryError Target :=
  match (resolver.settings.section? identifier).bind Section.type? with
  | some kind => (registry.find kind).map fun descriptor => ⟨descriptor, identifier⟩
  | none => (registry.find identifier).map fun descriptor => ⟨descriptor, descriptor.name⟩

/-- The value of an option in a section: from the variable of the section, the bare variable of
an option without prefix, the variable of the backend, the settings, and last the default. -/
def value? (resolver : Resolver) (descriptor : Descriptor) (part : String)
    (parameter : Parameter) : Option String :=
  let given? := resolver.environment.nonempty?
  let bare := if parameter.isUnprefixed then
    given? (Backend.environmentName parameter.name) else none
  given? (Backend.sectionEnvironmentName part parameter.name)
    <|> bare
    <|> given? (parameter.environmentName descriptor.shortName)
    <|> (resolver.settings.section? part).bind (·.get? parameter.name)
    <|> parameter.default

/-- Sets the declared options in order; a required one must have a value. -/
def declared (resolver : Resolver) (descriptor : Descriptor) (part : String) (values : Values) :
    List Parameter → Except ConfigError Values
  | [] => .ok values
  | parameter :: rest =>
    match resolver.value? descriptor part parameter with
    | some value => declared resolver descriptor part (values.set parameter.name value) rest
    | none =>
      if parameter.required then .error (.missingOption part parameter.name)
      else declared resolver descriptor part values rest

/-- Sets the options of the section that are not declared. -/
def undeclared (descriptor : Descriptor) (part : Section) (values : Values) : Values :=
  part.options.foldl (fun values (name, _) =>
    if (descriptor.parameter? name).isSome then values
    else match part.get? name with
      | some value => values.set name value
      | none => values) values

def resolve (resolver : Resolver) (descriptor : Descriptor) (part : String) :
    Except ConfigError Values := do
  let values ← resolver.declared descriptor part {} descriptor.parameters
  match resolver.settings.section? part with
  | some found => pure (undeclared descriptor found values)
  | none => pure values

end Resolver

end FleetSearch.Config
