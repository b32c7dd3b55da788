import FleetSearch.Backend.Consul
import FleetSearch.Backend.Rest

/-! The kinds of backends that come with the service. -/

namespace FleetSearch.Backend

/-- The kinds of backends that come with the service, in the order of their registration. -/
def builtin [Pattern.Dialect] : List Descriptor := [Consul.descriptor, Rest.descriptor]

end FleetSearch.Backend
