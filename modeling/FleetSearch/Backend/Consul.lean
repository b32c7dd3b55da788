import FleetSearch.Backend.Descriptor
import FleetSearch.Backend.Health
import FleetSearch.Backend.Listing
import FleetSearch.Text.Quoted

/-! The nodes of a Consul catalog. One request lists the nodes whose names contain the pattern,
and one more for each of them asks for its health. -/

namespace FleetSearch.Backend

open FleetSearch.Inventory (Collection Instance)
open FleetSearch.Json (Decoder Value)
open FleetSearch.Network (Request Session)

structure Consul where
  address : Url
  datacenter : String := ""
  token : String := ""
  space : String := ""

structure CatalogNode where
  id : String := ""
  name : String
  address : String := ""
  taggedAddresses : Option (Entries String) := none

/-- Reads a node, as an object or as an array of its parts. -/
def CatalogNode.decode : Decoder CatalogNode := fun depth term => do
  match ← Decoder.record ["ID", "Node", "Address", "TaggedAddresses"] depth term with
  | [id, name, address, tags] =>
    let inner := depth - 1
    some
      { id := ← Decoder.withDefault Decoder.text "" inner id
        name := ← Decoder.required Decoder.text inner name
        address := ← Decoder.withDefault Decoder.text "" inner address
        taggedAddresses :=
          ← Decoder.withDefault (Decoder.optional (Decoder.entries Decoder.text)) none inner
            tags }
  | _ => none

def CatalogNode.ofValue? (value : Value) : Option CatalogNode :=
  CatalogNode.decode value.nesting (.ofValue value)

/-- The address of a node on a wide area network, where it is another one than its own. -/
def CatalogNode.publicAddress (node : CatalogNode) : String :=
  let wide := node.taggedAddresses.bind (Entries.get? "wan")
  (wide.filter (· ≠ node.address)).getD ""

namespace Consul

def name : String := "consul"

def defaultAddress : String := "http://127.0.0.1:8500"

def parameters : List Parameter :=
  [ { name := "address"
      help := "Address of the Consul server"
      default := some defaultAddress
      examples := [⟨"https://consul.example.com:8501", "TLS endpoint"⟩] },
    { name := "datacenter", help := "Datacenter to use" },
    { name := "token", help := "ACL token sent with every request", isPassword := true },
    { name := "namespace", help := "Namespace to query (Consul Enterprise)", advanced := true } ]

/-- The words for an address that cannot be used. -/
def badAddress (address : String) : String :=
  "invalid consul address " ++ Text.quote address

def ofValues (values : Config.Values) : Except Cause Consul :=
  let address := (values.get? "address").getD defaultAddress
  match Url.read address with
  | .error error => .error (Cause.within (.ofText error.message) (badAddress address))
  | .ok url =>
    if url.isOpaque then .error (.ofText (badAddress url.write))
    else .ok
      { address := url
        datacenter := values.getOrEmpty "datacenter"
        token := values.getOrEmpty "token"
        space := values.getOrEmpty "namespace" }

/-- The address with further segments in its path. -/
def endpoint (consul : Consul) (segments : List String) : String :=
  (consul.address.withSegments segments).write

def request (consul : Consul) (segments : List String) : Request :=
  (((({ url := consul.endpoint segments } : Request).headerIfAny "X-Consul-Token" consul.token)
    ).paramIfAny "dc" consul.datacenter).paramIfAny "ns" consul.space

def filterChar (c : Char) : List Char :=
  if c == '\\' || c == '"' then ['\\', c] else [c]

/-- The filter for nodes whose names contain a pattern. -/
def nodeFilter (pattern : String) : String :=
  "Node contains \"" ++ String.ofList (pattern.toList.flatMap filterChar) ++ "\""

/-- The request for the nodes whose names contain a pattern. -/
def catalogRequest (consul : Consul) (pattern : String) : Request :=
  (consul.request ["v1", "catalog", "nodes"]).param "filter" (nodeFilter pattern)

def healthRequest (consul : Consul) (node : String) : Request :=
  consul.request ["v1", "health", "node", node]

def nodeInstance (raw : Value) (node : CatalogNode) (health : Health) : Instance :=
  { id := node.id, backendName := name, name := node.name, kind := "node"
    status := health.status, privateIp := node.address, publicIp := node.publicAddress, raw }

def listNodes (consul : Consul) (found : Collection) : List Value → Listing
  | [] => .done (.ok found)
  | raw :: rest =>
    match CatalogNode.ofValue? raw with
    | none => .done (.error ⟨.foreign .json, []⟩)
    | some node =>
      Network.fetch (Decoder.list HealthCheck.decode) (consul.healthRequest node.name) fun
        | .error error => .done (.error error.cause)
        | .ok checks => listNodes consul (found ++ [nodeInstance raw node (.ofChecks checks)]) rest

/-- Lists the nodes whose names contain a pattern. -/
def list (consul : Consul) (pattern : String) : Listing :=
  Network.fetch (Decoder.list Decoder.value) (consul.catalogRequest pattern) fun
    | .error error => .done (.error error.cause)
    | .ok raws => consul.listNodes [] raws

def cacheKey (consul : Consul) (pattern : String) : String :=
  (if consul.datacenter = "" then "default" else consul.datacenter) ++ "/" ++ consul.space ++ "/" ++
    pattern

def backend (consul : Consul) (client : Network.Client) : Backend :=
  { name, cacheKey := consul.cacheKey
    list := fun pattern _ => (consul.list pattern).course client }

def descriptor : Descriptor :=
  { name, shortName := name, description := "Consul by HashiCorp", parameters
    factory := fun values client => (ofValues values).map fun consul => consul.backend client }

end Consul

end FleetSearch.Backend
