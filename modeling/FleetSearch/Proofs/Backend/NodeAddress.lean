import FleetSearch.Backend.Consul
import FleetSearch.Proofs.Url.Appended

/-! Addresses that nodes of a catalog are asked for their health at. The name of a node is the last
segment of the path, unless it is one or two dots or has a tab or a line end in it; a path of the
catalog that is two slashes loses one of them. -/

namespace FleetSearch

namespace Url

variable {url : Url} {parts : List String} {scheme name : String}

theorem addSegment_word (member : name ∈ ["v1", "health", "node"]) (parts : List String) :
    addSegment scheme parts name = (if parts = [""] then [] else parts) ++ [name] := by
  have plain : ∀ word ∈ ["v1", "health", "node"], ∀ special, segmentText special word = word ∧
      (word ≠ "." ∧ word ≠ "..") ∧ isDoubleDot word = false ∧ isSingleDot word = false ∧
        isDrive word = false := by decide
  obtain ⟨text, dots, double, single, drive⟩ := plain name member (isSpecial scheme)
  rw [addSegment, if_neg (not_or.mpr dots)]
  simp [text, pushSegment, pushName, double, single, drive]

theorem withSegments_node (path : url.path = .segments parts) (name : String) :
    url.withSegments ["v1", "health", "node", name] =
      { url with
        path := .segments
          ((Step.ofName name).follow url.scheme (root parts ++ ["v1", "health", "node"])) } := by
  have first : addSegment url.scheme (dropFinalEmpty parts) "v1" = root parts ++ ["v1"] :=
    addSegment_word (by simp) _
  have second : addSegment url.scheme (root parts ++ ["v1"]) "health" =
      root parts ++ ["v1", "health"] := by
    rw [addSegment_word (by simp), if_neg (by simp [List.append_eq_singleton_iff])]
    simp
  have third : addSegment url.scheme (root parts ++ ["v1", "health"]) "node" =
      root parts ++ ["v1", "health", "node"] := by
    rw [addSegment_word (by simp), if_neg (by simp [List.append_eq_singleton_iff])]
    simp
  have last : (root parts ++ ["v1", "health", "node"]).getLast? = some "node" := by simp
  rw [withSegments, path]
  simp only [List.foldl_cons, List.foldl_nil, first, second, third]
  rw [addSegment_eq_follow last (by decide) (by decide)]

end Url

namespace Backend.Consul

open FleetSearch.Config (Values)
open FleetSearch.Url (Stands Step encoded root withoutFinalEmpty)

variable {consul : Consul} {values : Values} {parts : List String} {node other : String}

/-- The address that a node is asked for its health at. -/
def healthUrl (consul : Consul) (node : String) : Url :=
  consul.address.withSegments ["v1", "health", "node", node]

/-- Whether the path for the health of a node is that of the catalog, the words of the service and
one more segment, which says the name of the node. An empty segment at the end of the path of the
catalog does not count. -/
def Identifies (consul : Consul) (node : String) : Prop :=
  ∃ parts segment, consul.address.path = .segments parts ∧
    consul.healthUrl node =
      { consul.address with
        path := .segments (withoutFinalEmpty parts ++ ["v1", "health", "node", segment]) } ∧
    Url.Plain segment ∧ '/' ∉ segment.toList ∧
    Text.decodeUtf8? (Url.percentDecode segment.toList) = some node.toList

theorem exists_segments_of_ofValues (built : ofValues values = .ok consul) :
    ∃ parts, consul.address.path = .segments parts := by
  unfold ofValues at built
  dsimp only at built
  split at built
  · cases built
  rename_i url read
  split at built
  · cases built
  · rename_i structured
    cases built
    unfold Url.isOpaque at structured
    split at structured
    · exact absurd rfl structured
    · rename_i parts path
      exact ⟨parts, path⟩

/-- What a step makes of the last word of the service. -/
def lastSegments (scheme : String) : Step → List String
  | .stay => ["node"]
  | .back => [""]
  | .down chars => ["node", encoded scheme chars]

theorem healthUrl_eq (path : consul.address.path = .segments parts) (node : String) :
    consul.healthUrl node =
      { consul.address with
        path := .segments ((root parts ++ ["v1", "health"]) ++
          lastSegments consul.address.scheme (Step.ofName node)) } := by
  rw [healthUrl, Url.withSegments_node path]
  cases Step.ofName node <;> simp [Step.follow, lastSegments]

theorem lastSegments_injective {scheme : String} {first second : Step}
    (same : ((lastSegments scheme first).flatMap fun part => '/' :: part.toList) =
      (lastSegments scheme second).flatMap fun part => '/' :: part.toList) : first = second := by
  cases first <;> cases second
  case down.down first second =>
    have chars : (encoded scheme first).toList = (encoded scheme second).toList := by
      simpa [lastSegments] using same
    rw [Url.encoded_injective (String.toList_inj.mp chars)]
  all_goals simp [lastSegments] at same ⊢

/-- Nodes are asked for at one address exactly if their names take the same step. -/
theorem endpoint_eq_iff (path : consul.address.path = .segments parts) :
    consul.endpoint ["v1", "health", "node", node] =
        consul.endpoint ["v1", "health", "node", other] ↔
      Step.ofName node = Step.ofName other := by
  have written (node : String) : consul.endpoint ["v1", "health", "node", node] =
      (consul.healthUrl node).write := rfl
  rw [written, written, healthUrl_eq path, healthUrl_eq path]
  constructor
  · exact fun same => lastSegments_injective (Url.tail_eq_of_write_eq (by simp) same)
  · intro same
    rw [same]

/-- A node is identified by its address exactly if its name is a segment as it stands, and the path
of the catalog is not two slashes. -/
theorem identifies_iff (path : consul.address.path = .segments parts) :
    consul.Identifies node ↔ Stands node ∧ parts ≠ ["", ""] := by
  constructor
  · rintro ⟨others, segment, again, same, _, _, decoded⟩
    cases path.symm.trans again
    rw [healthUrl_eq path] at same
    have paths : (root parts ++ ["v1", "health"]) ++
        lastSegments consul.address.scheme (Step.ofName node) =
          withoutFinalEmpty parts ++ ["v1", "health", "node", segment] := by
      simpa using congrArg Url.path same
    have rooted : parts ≠ ["", ""] := by
      rintro rfl
      simp [root, withoutFinalEmpty, Url.dropFinalEmpty] at paths
    rw [Url.root_eq_iff.mpr rooted, List.append_assoc, List.append_cancel_left_eq] at paths
    refine ⟨Url.ofName_eq_down_iff.mp ?_, rooted⟩
    cases step : Step.ofName node with
    | stay => simp [step, lastSegments] at paths
    | back => simp [step, lastSegments] at paths
    | down chars =>
      have said : encoded consul.address.scheme chars = segment := by
        simpa [step, lastSegments] using paths
      rw [← said, Url.decodeUtf8?_encoded] at decoded
      rw [Option.some.inj decoded]
  · rintro ⟨stands, rooted⟩
    refine ⟨parts, encoded consul.address.scheme node.toList, path, ?_, Url.plain_encoded _ _,
      Url.slash_notMem_encoded _ _, Url.decodeUtf8?_encoded _ _⟩
    rw [healthUrl_eq path, Url.ofName_eq_down_iff.mpr stands, Url.root_eq_iff.mpr rooted]
    simp [lastSegments]

/-- The address for the health of a node has the name of the node as its last segment exactly if the
name is no dots, has no tab or line end in it, and the path of the catalog is not two slashes. Names
share an address exactly if they take the same step behind the path, so those that are segments as
they stand have different ones. -/
theorem node_identified_iff (built : ofValues values = .ok consul) (node : String) :
    let address := fun name => consul.endpoint ["v1", "health", "node", name]
    address node = (consul.healthUrl node).write ∧
    (consul.Identifies node ↔
      (node ≠ "." ∧ node ≠ ".." ∧ ∀ c ∈ node.toList, c ≠ '\t' ∧ c ≠ '\n' ∧ c ≠ '\r') ∧
        consul.address.path ≠ .segments ["", ""]) ∧
    (∀ other, address node = address other ↔ Step.ofName node = Step.ofName other) ∧
    ∀ other, Stands node → Stands other → address node = address other → node = other := by
  intro address
  obtain ⟨parts, path⟩ := exists_segments_of_ofValues built
  refine ⟨rfl, ?_, fun other => endpoint_eq_iff path, fun other stands likewise same => ?_⟩
  · rw [identifies_iff path, path]
    simp [Stands, Url.isDropped, and_assoc]
  · have steps := (endpoint_eq_iff path).mp same
    rw [Url.ofName_eq_down_iff.mpr stands, Url.ofName_eq_down_iff.mpr likewise] at steps
    exact String.toList_inj.mp (Step.down.inj steps)

/-- A catalog below the path of a gateway, with a query of its own. -/
def gateway : Consul :=
  { address :=
      { scheme := "http", host := some "gw.test", path := .segments ["consul", ""]
        query := some "stale" } }

/-- A catalog at a path of two slashes. -/
def doubled : Consul :=
  { address := { scheme := "http", host := some "gw.test", path := .segments ["", ""] } }

theorem ofValues_of_read {text : String} {url : Url} (read : Url.read text = .ok url)
    (structured : url.isOpaque = false) :
    ofValues (.ofPairs [("address", text)]) = .ok { address := url } := by
  have given : ((Values.ofPairs [("address", text)]).get? "address").getD defaultAddress = text :=
    rfl
  simp only [ofValues, given, read, structured]
  rfl

theorem ofValues_gateway :
    ofValues (.ofPairs [("address", "http://gw.test/consul/?stale")]) = .ok gateway :=
  ofValues_of_read (by decide +kernel) rfl

theorem ofValues_doubled : ofValues (.ofPairs [("address", "http://gw.test//")]) = .ok doubled :=
  ofValues_of_read (by decide +kernel) rfl

theorem path_gateway : gateway.address.path = .segments ["consul", ""] := rfl

theorem path_doubled : doubled.address.path = .segments ["", ""] := rfl

theorem node_identified_gateway :
    ofValues (.ofPairs [("address", "http://gw.test/consul/?stale")]) = .ok gateway ∧
      Stands "web 1/a?b%" ∧ Stands "%2E%2E" ∧ gateway.Identifies "web 1/a?b%" ∧
      gateway.Identifies "%2E%2E" ∧
      gateway.endpoint ["v1", "health", "node", "web 1/a?b%"] =
        "http://gw.test/consul/v1/health/node/web%201%2Fa%3Fb%25?stale" ∧
      gateway.endpoint ["v1", "health", "node", "web 1/a?b%"] ≠
        gateway.endpoint ["v1", "health", "node", "%2E%2E"] := by
  obtain ⟨_, slashes, _, apart⟩ := node_identified_iff ofValues_gateway "web 1/a?b%"
  obtain ⟨_, dots, _⟩ := node_identified_iff ofValues_gateway "%2E%2E"
  have stands : Stands "web 1/a?b%" := by simp [Stands, Url.isDropped]
  have likewise : Stands "%2E%2E" := by simp [Stands, Url.isDropped]
  refine ⟨ofValues_gateway, stands, likewise, slashes.mpr ⟨by simp, by simp [path_gateway]⟩,
    dots.mpr ⟨by simp, by simp [path_gateway]⟩, by decide +kernel, fun same => ?_⟩
  exact absurd (apart _ stands likewise same) (by simp)

/-- Neither are all nodes identified by their addresses, nor do different ones have different
addresses: two dots are no segment, tabs are lost, and so is one of two slashes. -/
theorem dots_not_identified :
    (¬ ∀ (values : Values) (consul : Consul) (node : String), ofValues values = .ok consul →
      consul.Identifies node) ∧
    (¬ ∀ (values : Values) (consul : Consul), ofValues values = .ok consul →
      Function.Injective fun node => consul.endpoint ["v1", "health", "node", node]) ∧
    ¬ gateway.Identifies ".." ∧
    gateway.endpoint ["v1", "health", "node", ".."] = "http://gw.test/consul/v1/health/node?stale" ∧
    gateway.endpoint ["v1", "health", "node", "a\tb"] =
      gateway.endpoint ["v1", "health", "node", "ab"] ∧
    ¬ doubled.Identifies "web" ∧
    doubled.endpoint ["v1", "health", "node", "web"] = "http://gw.test/v1/health/node/web" ∧
    doubled.endpoint ["v1", "catalog", "nodes"] = "http://gw.test/v1/catalog/nodes" := by
  have dots : ¬ gateway.Identifies ".." := by
    rw [identifies_iff path_gateway]
    simp [Stands]
  have slash : ¬ doubled.Identifies "web" := by
    rw [identifies_iff path_doubled]
    simp
  have tab : gateway.endpoint ["v1", "health", "node", "a\tb"] =
      gateway.endpoint ["v1", "health", "node", "ab"] := by
    rw [endpoint_eq_iff path_gateway]
    decide +kernel
  refine ⟨fun claim => dots (claim _ _ _ ofValues_gateway), fun claim => ?_, dots,
    by decide +kernel, tab, slash, by decide +kernel, by decide +kernel⟩
  exact absurd (claim _ _ ofValues_gateway tab) (by simp)

end Backend.Consul

end FleetSearch
