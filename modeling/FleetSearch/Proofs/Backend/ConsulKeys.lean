import FleetSearch.Backend.Consul
import FleetSearch.Proofs.Backend.Keys

/-! Which queries of a catalog the keys in the cache keep apart. A key is the scope of the queries,
a slash and the pattern; the scope is the datacenter, a slash and the namespace. The word for a
missing datacenter can also be the name of one, and all three parts can have slashes in them. -/

namespace FleetSearch.Backend.Consul

open FleetSearch.Text (Extends)

variable {consul other : Consul} {pattern text : String}

/-- Whether the keys of two catalogs cover their requests: under one key they ask for the same. -/
def RequestsCovered (consul other : Consul) : Prop :=
  KeysCover consul.cacheKey other.cacheKey consul.catalogRequest other.catalogRequest

/-- What goes before the pattern in a key, without the slash between them. -/
def scope (consul : Consul) : String :=
  (if consul.datacenter = "" then "default" else consul.datacenter) ++ "/" ++ consul.space

theorem filterChar_cases (c : Char) :
    filterChar c = ['\\', c] ∧ (c = '\\' ∨ c = '"') ∨ filterChar c = [c] ∧ c ≠ '\\' ∧ c ≠ '"' := by
  unfold filterChar
  split
  · rename_i special
    exact .inl ⟨rfl, by simpa using special⟩
  · rename_i plain
    exact .inr ⟨rfl, by simpa using plain⟩

theorem filterChar_append_inj {a b : Char} {rest behind : List Char}
    (same : filterChar a ++ rest = filterChar b ++ behind) : a = b ∧ rest = behind := by
  rcases filterChar_cases a with ⟨first, _⟩ | ⟨first, slash, _⟩ <;>
    rcases filterChar_cases b with ⟨second, _⟩ | ⟨second, slash, _⟩ <;>
    rw [first, second] at same
  · simpa using same
  · exact absurd (List.cons.inj same).1.symm slash
  · exact absurd (List.cons.inj same).1 slash
  · simpa using same

theorem filterChar_ne_quote (c : Char) (rest behind : List Char) :
    filterChar c ++ rest ≠ '"' :: behind := by
  rcases filterChar_cases c with ⟨spelled, _⟩ | ⟨spelled, _, quote⟩ <;> rw [spelled]
  · exact fun same => absurd (List.cons.inj same).1 (by decide)
  · exact fun same => quote (List.cons.inj same).1

theorem nodeFilter_injective (same : nodeFilter pattern = nodeFilter text) : pattern = text := by
  unfold nodeFilter at same
  simp only [String.append_assoc] at same
  have quoted := congrArg String.toList ((String.append_right_inj _).mp same)
  have spelled : pattern.toList.flatMap filterChar ++ '"' :: [] =
      text.toList.flatMap filterChar ++ '"' :: [] := by
    simpa using quoted
  have chars := Text.flatMap_cancel (fun _ _ _ _ => filterChar_append_inj) filterChar_ne_quote
    spelled
  exact String.toList_inj.mp chars.1

theorem params_catalogRequest (consul : Consul) (pattern : String) :
    (consul.catalogRequest pattern).params =
      (if consul.datacenter = "" then [] else [("dc", consul.datacenter)]) ++
        (if consul.space = "" then [] else [("ns", consul.space)]) ++
          [("filter", nodeFilter pattern)] := by
  have bare : (({ url := consul.endpoint ["v1", "catalog", "nodes"] } : Network.Request).headerIfAny
      "X-Consul-Token" consul.token).params = [] := by
    unfold Network.Request.headerIfAny
    split <;> rfl
  unfold catalogRequest request Network.Request.paramIfAny Network.Request.param
  split <;> split <;> simp [bare]

/-- The value of a parameter in a request; nothing where the parameter is missing. -/
def told (request : Network.Request) (name : String) : String :=
  (Entries.get? name request.params).getD ""

theorem told_catalogRequest (consul : Consul) (pattern : String) :
    told (consul.catalogRequest pattern) "dc" = consul.datacenter ∧
      told (consul.catalogRequest pattern) "ns" = consul.space ∧
        told (consul.catalogRequest pattern) "filter" = nodeFilter pattern := by
  unfold told
  rw [params_catalogRequest]
  by_cases datacenter : consul.datacenter = "" <;> by_cases space : consul.space = "" <;>
    simp [datacenter, space, Entries.get?]

/-- A request tells the datacenter, the namespace and the pattern, of which each can be missing. -/
theorem eq_of_catalogRequest_eq
    (same : consul.catalogRequest pattern = other.catalogRequest text) :
    consul.datacenter = other.datacenter ∧ consul.space = other.space ∧ pattern = text := by
  obtain ⟨datacenter, space, filter⟩ := told_catalogRequest consul pattern
  obtain ⟨otherDatacenter, otherSpace, otherFilter⟩ := told_catalogRequest other text
  rw [same] at datacenter space filter
  exact ⟨datacenter.symm.trans otherDatacenter, space.symm.trans otherSpace,
    nodeFilter_injective (filter.symm.trans otherFilter)⟩

theorem catalogRequest_congr (address : consul.address = other.address)
    (token : consul.token = other.token) (datacenter : consul.datacenter = other.datacenter)
    (space : consul.space = other.space) (pattern : String) :
    consul.catalogRequest pattern = other.catalogRequest pattern := by
  cases consul
  cases other
  cases address
  cases token
  cases datacenter
  cases space
  rfl

theorem RequestsCovered.not_extends (covers : consul.RequestsCovered other) :
    ¬ Extends "/" consul.scope other.scope := by
  intro longer
  obtain ⟨rest, same⟩ := covers.eq_of_extends longer
  have patterns := (eq_of_catalogRequest_eq same).2.2
  have length := congrArg (fun text : String => text.toList.length) patterns
  simp at length

/-- The keys of two catalogs at one address, with one token, keep their queries apart if and only if
neither scope extends the other by a slash and more, and equal scopes are those of one datacenter
and one namespace. -/
theorem requestsCovered_iff (address : consul.address = other.address)
    (token : consul.token = other.token) : consul.RequestsCovered other ↔
      (¬ Extends "/" consul.scope other.scope ∧ ¬ Extends "/" other.scope consul.scope) ∧
        (consul.scope = other.scope →
          consul.datacenter = other.datacenter ∧ consul.space = other.space) := by
  constructor
  · intro covers
    have otherwise : other.RequestsCovered consul := KeysCover.symm covers
    refine ⟨⟨covers.not_extends, otherwise.not_extends⟩, fun same => ?_⟩
    obtain ⟨datacenter, space, _⟩ := eq_of_catalogRequest_eq (covers.eq_of_front_eq same "")
    exact ⟨datacenter, space⟩
  · rintro ⟨apart, shared⟩
    refine keysCover_of_apart rfl apart fun same pattern => ?_
    obtain ⟨datacenter, space⟩ := shared same
    exact catalogRequest_congr address token datacenter space pattern

/-- The catalog of a datacenter on one host. -/
def nearby (datacenter : String) : Consul :=
  { address := { scheme := "http", host := some "h", path := .segments [""] }, datacenter }

theorem requestsCovered_eu_us :
    (nearby "eu").address = (nearby "us").address ∧ (nearby "eu").token = (nearby "us").token ∧
      (nearby "eu").RequestsCovered (nearby "us") := by
  have address : (nearby "eu").address = (nearby "us").address := rfl
  have token : (nearby "eu").token = (nearby "us").token := rfl
  have different : (nearby "eu").scope ≠ (nearby "us").scope := by decide
  refine ⟨address, token, (requestsCovered_iff address token).mpr
    ⟨⟨?_, ?_⟩, fun same => absurd same different⟩⟩ <;>
  · rintro ⟨rest, same⟩
    have first := congrArg (fun text : String => text.toList.head?) same
    simp [scope, nearby] at first

/-- Keys do not keep the queries for a missing datacenter and for the one called `default` apart. -/
theorem default_not_requestsCovered : ¬ ∀ consul other : Consul,
    consul.address = other.address → consul.token = other.token → consul.RequestsCovered other := by
  intro claim
  have covers := claim (nearby "") (nearby "default") rfl rfl
  have same := eq_of_catalogRequest_eq (covers "web" "web" rfl)
  exact absurd same.1 (by decide)

end FleetSearch.Backend.Consul
