import FleetSearch.Backend.Basic
import FleetSearch.Network.Session

/-! Listings of instances by way of requests. -/

namespace FleetSearch.Backend

/-- A session that lists instances. -/
abbrev Listing := Network.Session (Except Cause Inventory.Collection)

def Listing.course (listing : Listing) (client : Network.Client) : Course :=
  let transcript := listing.run client none 0 []
  match transcript.result with
  | .ok items => { delay := transcript.time, ending := .returns items }
  | .error cause => { delay := transcript.time, ending := .fails cause }

end FleetSearch.Backend
