import FleetSearch.Backend.Consul
import FleetSearch.Proofs.Network.Exchanges
import FleetSearch.Proofs.Network.Responses
import FleetSearch.Proofs.Url.Rereading

/-! Listings of the nodes of a catalog as they go: which requests are made in which order, what they
are sent with, and which answers the instances come from. -/

namespace FleetSearch.Backend.Consul

open FleetSearch.Config (Values)
open FleetSearch.Inventory (Collection Instance)
open FleetSearch.Json (Decoder Value)
open FleetSearch.Network

variable {consul : Consul} {client : Client} {firedAt : Option Nat} {time : Nat}
  {sent : List Message} {message : Message} {segments : List String}

@[simp] theorem url_request (consul : Consul) (segments : List String) :
    (consul.request segments).url = consul.endpoint segments := by
  unfold request Request.paramIfAny Request.headerIfAny
  split <;> split <;> split <;> rfl

/-- What a request for the health of a node came to. -/
abbrev healthOf (exchange : Exchange) : Except FetchError (List HealthCheck) :=
  exchange.document (Decoder.list HealthCheck.decode)

/-- The way through the elements of a catalog, with the requests on it: each node has its own, and
the way ends at the first element that is no node, or at the first request that fails. -/
inductive Visits (consul : Consul) : List Value → List Exchange → Except Cause Collection → Prop
  | done : Visits consul [] [] (.ok [])
  | unreadable {raw : Value} {rest : List Value} {cause : Cause}
      (strange : CatalogNode.ofValue? raw = none) : Visits consul (raw :: rest) [] (.error cause)
  | refused {raw : Value} {rest : List Value} {node : CatalogNode} {exchange : Exchange}
      {error : FetchError} (read : CatalogNode.ofValue? raw = some node)
      (asked : exchange.request = consul.healthRequest node.name)
      (failed : healthOf exchange = .error error) :
      Visits consul (raw :: rest) [exchange] (.error error.cause)
  | visited {raw : Value} {rest : List Value} {node : CatalogNode} {exchange : Exchange}
      {exchanges : List Exchange} {checks : List HealthCheck} {result : Except Cause Collection}
      (read : CatalogNode.ofValue? raw = some node)
      (asked : exchange.request = consul.healthRequest node.name)
      (answered : healthOf exchange = .ok checks) (others : Visits consul rest exchanges result) :
      Visits consul (raw :: rest) (exchange :: exchanges)
        (result.map (nodeInstance raw node (.ofChecks checks) :: ·))

variable {raws : List Value} {exchanges : List Exchange} {result : Except Cause Collection}

/-- The nodes of a catalog, up to the first element that is none. -/
def nodesOf : List Value → List CatalogNode
  | [] => []
  | raw :: rest =>
    match CatalogNode.ofValue? raw with
    | some node => node :: nodesOf rest
    | none => []

theorem Visits.asked (visits : Visits consul raws exchanges result) :
    ∀ exchange ∈ exchanges, ∃ node, exchange.request = consul.healthRequest node := by
  induction visits with
  | done => simp
  | unreadable strange => simp
  | refused read asked failed => simpa using ⟨_, asked⟩
  | visited read asked answered others ih => exact List.forall_mem_cons.mpr ⟨⟨_, asked⟩, ih⟩

/-- The way through a catalog ends with instances if and only if all its elements are nodes and all
requests on it are answered. -/
theorem Visits.ok_iff (visits : Visits consul raws exchanges result) :
    (∃ found, result = .ok found) ↔ (∀ raw ∈ raws, ∃ node, CatalogNode.ofValue? raw = some node) ∧
      ∀ exchange ∈ exchanges, ∃ checks, healthOf exchange = .ok checks := by
  induction visits with
  | done => simp
  | unreadable strange => simp [strange]
  | refused read asked failed => simp [failed]
  | visited read asked answered others ih =>
    rw [List.forall_mem_cons, List.forall_mem_cons]
    have mapped {α β ε : Type} (result : Except ε α) (f : α → β) :
        (∃ found, result.map f = .ok found) ↔ ∃ found, result = .ok found := by
      cases result <;> simp [Except.map]
    rw [mapped, ih]
    have node : ∃ node, CatalogNode.ofValue? _ = some node := ⟨_, read⟩
    have checks : ∃ checks, healthOf _ = .ok checks := ⟨_, answered⟩
    tauto

/-- An element of a catalog, the request for its health, and the instance it is listed as. -/
structure Row where
  raw : Value
  exchange : Exchange
  item : Instance

/-- Whether an element is listed with the answer to its own request for health, and with its own
addresses. -/
def Row.Reports (consul : Consul) (row : Row) : Prop :=
  ∃ node checks, CatalogNode.ofValue? row.raw = some node ∧
    row.exchange.request = consul.healthRequest node.name ∧ healthOf row.exchange = .ok checks ∧
      row.item =
        { id := node.id, backendName := name, name := node.name, kind := "node"
          status := (Health.ofChecks checks).status
          privateIp := node.address
          publicIp :=
            match node.taggedAddresses.bind (Entries.get? "wan") with
            | some wide => if wide = node.address then "" else wide
            | none => ""
          raw := row.raw }

theorem publicAddress_eq (node : CatalogNode) : node.publicAddress =
    match node.taggedAddresses.bind (Entries.get? "wan") with
    | some wide => if wide = node.address then "" else wide
    | none => "" := by
  unfold CatalogNode.publicAddress
  cases node.taggedAddresses.bind (Entries.get? "wan") with
  | none => rfl
  | some wide => by_cases same : wide = node.address <;> simp [same, Option.filter]

/-- The instances of a catalog are those of its elements, one for each and in order. -/
theorem Visits.rows {found : Collection} (visits : Visits consul raws exchanges (.ok found)) :
    ∃ rows : List Row, rows.map Row.raw = raws ∧ rows.map Row.exchange = exchanges ∧
      rows.map Row.item = found ∧ ∀ row ∈ rows, row.Reports consul := by
  generalize same : Except.ok found = result at visits
  induction visits generalizing found with
  | done =>
    cases same
    exact ⟨[], rfl, rfl, rfl, by simp⟩
  | unreadable strange => cases same
  | refused read asked failed => cases same
  | @visited raw rest node exchange exchanges checks result read asked answered others ih =>
    cases result with
    | error cause => cases same
    | ok later =>
      cases same
      obtain ⟨rows, raws, exchanges, items, reports⟩ := ih rfl
      refine ⟨⟨raw, exchange, nodeInstance raw node (.ofChecks checks)⟩ :: rows,
        by rw [List.map_cons, raws], by rw [List.map_cons, exchanges], by rw [List.map_cons, items],
        List.forall_mem_cons.mpr ⟨⟨node, checks, read, asked, answered, ?_⟩, reports⟩⟩
      rw [nodeInstance, publicAddress_eq]

/-- All requests of a listing: one for the catalog, and one for the health of each of its nodes. -/
def requests (consul : Consul) (pattern : String) (raws : List Value) : List Request :=
  consul.catalogRequest pattern :: (nodesOf raws).map fun node => consul.healthRequest node.name

end FleetSearch.Backend.Consul
