import FleetSearch.Proofs.Config.Confinement
import FleetSearch.Proofs.Config.Loading
import FleetSearch.Proofs.Web.Transparency

/-! The backends that the service lists, and what their identifiers lead to in a search. An entry
for a section leads to the backend of its type; an entry for a registered backend leads to this
backend, unless a section of the same name selects something else. -/

namespace FleetSearch

namespace Config.Settings

open FleetSearch.Backend (Descriptor)

variable {settings : Settings} {identifier kind : String} {descriptor : Descriptor}

theorem mem_typedSections_iff (ordered : settings.Ordered) :
    (identifier, kind) ∈ settings.typedSections ↔ settings.type? identifier = some kind := by
  unfold typedSections type? section?
  rw [List.mem_filterMap, Option.bind_eq_some_iff]
  constructor
  · rintro ⟨⟨name, part⟩, member, selects⟩
    obtain ⟨selected, typed, same⟩ := Option.map_eq_some_iff.mp selects
    cases same
    exact ⟨part, Entries.get?_of_mem ordered member, typed⟩
  · rintro ⟨part, found, typed⟩
    exact ⟨(identifier, part), Entries.mem_of_get? found, by simp [typed]⟩

/-- Whether a section of this name selects something that is no name of a backend. -/
def Diverts (settings : Settings) (identifier : String) (descriptor : Descriptor) : Prop :=
  ∃ other, settings.type? identifier = some other ∧ descriptor.answersTo other = false

theorem not_diverts_of_type? (typed : settings.type? identifier = some kind)
    (known : descriptor.answersTo kind = true) : ¬ settings.Diverts identifier descriptor := by
  rintro ⟨other, selected, foreign⟩
  rw [typed] at selected
  cases selected
  rw [known] at foreign
  cases foreign

end Config.Settings

namespace Web

open FleetSearch.Backend (Descriptor Registry)
open FleetSearch.Config (Resolver Settings)

theorem backendEntry_inj {id kind otherId otherKind : String}
    (same : backendEntry id kind = backendEntry otherId otherKind) :
    id = otherId ∧ kind = otherKind := by
  have member (name : String) := congrArg (Json.Value.member? name) same
  constructor
  · simpa [backendEntry, Json.Value.ofMembers, Json.Value.member?, Entries.ofPairs,
      Entries.get?_insert_self, Entries.get?_insert_of_ne] using member "id"
  · simpa [backendEntry, Json.Value.ofMembers, Json.Value.member?, Entries.ofPairs,
      Entries.get?_insert_self] using member "type"

namespace Service

variable {service : Service} {descriptor : Descriptor} {id kind : String}

def registry (service : Service) : Registry := service.finder.registry

def settings (service : Service) : Settings := service.finder.resolver.settings

/-- What an identifier leads to in a search. -/
def target (service : Service) (identifier : String) : Except Backend.RegistryError Config.Target :=
  service.finder.resolver.target service.registry identifier

/-- Whether the endpoint for backends answers with an entry of this identifier and type. -/
def Lists (service : Service) (id kind : String) : Prop :=
  ∃ entries, service.backends.body = .array entries ∧ backendEntry id kind ∈ entries

/-- The entries are those of sections with a type, and one for each registered backend, whose type
is its name. -/
theorem lists_iff (ordered : service.settings.Ordered) : service.Lists id kind ↔
    service.settings.type? id = some kind ∨
      id = kind ∧ ∃ descriptor ∈ service.registry.descriptors, descriptor.name = kind := by
  rw [← Settings.mem_typedSections_iff ordered]
  unfold Lists backends
  constructor
  · rintro ⟨entries, body, member⟩
    cases body
    rcases List.mem_append.mp member with typed | registered
    · obtain ⟨⟨name, type⟩, present, same⟩ := List.mem_map.mp typed
      obtain ⟨rfl, rfl⟩ := backendEntry_inj same
      exact .inl present
    · obtain ⟨name, present, same⟩ := List.mem_map.mp registered
      obtain ⟨rfl, rfl⟩ := backendEntry_inj same
      obtain ⟨descriptor, known, rfl⟩ := List.mem_map.mp present
      exact .inr ⟨rfl, descriptor, known, rfl⟩
  · intro entry
    refine ⟨_, rfl, List.mem_append.mpr ?_⟩
    rcases entry with typed | ⟨rfl, descriptor, registered, rfl⟩
    · exact .inl (List.mem_map_of_mem (f := fun part => backendEntry part.1 part.2) typed)
    · exact .inr (List.mem_map_of_mem (List.mem_map_of_mem registered))

/-- A section with a type leads to the backend of the type. -/
theorem target_of_type? (built : service.registry.Built)
    (member : descriptor ∈ service.registry.descriptors)
    (typed : service.settings.type? id = some kind) (known : descriptor.answersTo kind = true) :
    service.target id = .ok ⟨descriptor, id⟩ := by
  have found : service.registry.find kind = .ok descriptor := built.find_of_answersTo member known
  have selected : service.finder.resolver.settings.type? id = some kind := typed
  rw [target, Resolver.target_eq, selected]
  simp [found, Except.map]

/-- Without such a section a name leads to the backend that goes by it. -/
theorem target_of_answersTo (built : service.registry.Built)
    (member : descriptor ∈ service.registry.descriptors)
    (untyped : service.settings.type? id = none) (known : descriptor.answersTo id = true) :
    service.target id = .ok ⟨descriptor, descriptor.name⟩ := by
  have found : service.registry.find id = .ok descriptor := built.find_of_answersTo member known
  have unselected : service.finder.resolver.settings.type? id = none := untyped
  rw [target, Resolver.target_eq, unselected]
  simp [found, Except.map]

/-- The identifier of an entry leads to the backend that goes by the type of the entry, unless a
section of this name has a type by which this backend does not go. The section comes first then:
the identifier leads to the backend of its type, if there is one, and that is not the backend of the
entry. -/
theorem target_of_listed (built : service.registry.Built) (ordered : service.settings.Ordered)
    (listed : service.Lists id kind) (member : descriptor ∈ service.registry.descriptors)
    (known : descriptor.answersTo kind = true) :
    (¬ service.settings.Diverts id descriptor →
      ∃ part, service.target id = .ok ⟨descriptor, part⟩) ∧
    ∀ other chosen, service.settings.type? id = some other → descriptor.answersTo other = false →
      chosen ∈ service.registry.descriptors → chosen.answersTo other = true →
      service.target id = .ok ⟨chosen, id⟩ ∧ chosen.answersTo kind = false := by
  constructor
  · intro straight
    cases typed : service.settings.type? id with
    | some other =>
      have own : descriptor.answersTo other = true := by
        cases answers : descriptor.answersTo other with
        | true => rfl
        | false => exact absurd ⟨other, typed, answers⟩ straight
      exact ⟨id, target_of_type? built member typed own⟩
    | none =>
      rcases (lists_iff ordered).mp listed with selected | ⟨rfl, _⟩
      · rw [typed] at selected
        cases selected
      · exact ⟨descriptor.name, target_of_answersTo built member typed known⟩
  · intro other chosen typed foreign registered answers
    refine ⟨target_of_type? built registered typed answers, ?_⟩
    -- Otherwise the two would be one backend.
    cases both : chosen.answersTo kind with
    | false => rfl
    | true =>
      have first := built.find_of_answersTo member known
      rw [built.find_of_answersTo registered both] at first
      cases first
      rw [answers] at foreign
      cases foreign

/-- A service in which a section has the name of a backend and selects another one. -/
def shadowingService : Service :=
  { hostsService with
    finder := { Search.hostsFinder with
      registry := Resolver.clusters
      resolver := ⟨Resolver.shadowing, fun _ => none⟩ } }

private theorem ordered_shadowing : shadowingService.settings.Ordered := by
  have ascending : ["kubernetes", "kubernetes-eu"].Pairwise (· < ·) := by decide
  exact ascending

private theorem built_shadowing : shadowingService.registry.Built :=
  Resolver.built_clusters

private theorem kubernetes_registered :
    Backend.unbuilt "kubernetes" "k8s" ∈ shadowingService.registry.descriptors :=
  List.mem_cons_self

private theorem rest_registered :
    Backend.Rest.descriptor ∈ shadowingService.registry.descriptors :=
  List.mem_cons_of_mem _ List.mem_cons_self

private theorem kubernetes_listed : shadowingService.Lists "kubernetes" "kubernetes" :=
  (lists_iff ordered_shadowing).mpr (.inr ⟨rfl, _, kubernetes_registered, rfl⟩)

theorem target_of_listed_kubernetes :
    shadowingService.Lists "kubernetes-eu" "k8s" ∧
      (∃ part, shadowingService.target "kubernetes-eu" =
        .ok ⟨Backend.unbuilt "kubernetes" "k8s", part⟩) ∧
      shadowingService.Lists "kubernetes" "kubernetes" ∧
      shadowingService.target "kubernetes" = .ok ⟨Backend.Rest.descriptor, "kubernetes"⟩ ∧
      Backend.Rest.descriptor.answersTo "kubernetes" = false := by
  have listed : shadowingService.Lists "kubernetes-eu" "k8s" :=
    (lists_iff ordered_shadowing).mpr (.inl rfl)
  have straight := (target_of_listed built_shadowing ordered_shadowing listed
    kubernetes_registered rfl).1 (Settings.not_diverts_of_type? rfl rfl)
  have diverted := (target_of_listed built_shadowing ordered_shadowing kubernetes_listed
    kubernetes_registered rfl).2 "rest" Backend.Rest.descriptor rfl rfl rest_registered rfl
  exact ⟨listed, straight, kubernetes_listed, diverted⟩

/-- The identifier of an entry can lead to a backend that does not go by the type of the entry. -/
theorem target_of_listed_diverted : ¬ ∀ (service : Service) (id kind : String)
    (descriptor : Descriptor), service.registry.Built → service.settings.Ordered →
    service.Lists id kind → descriptor ∈ service.registry.descriptors →
    descriptor.answersTo kind = true →
    ∃ target, service.target id = .ok target ∧ target.descriptor.answersTo kind = true := by
  intro claim
  obtain ⟨target, aimed, answers⟩ := claim shadowingService "kubernetes" "kubernetes" _
    built_shadowing ordered_shadowing kubernetes_listed kubernetes_registered rfl
  have elsewhere : shadowingService.target "kubernetes" =
      .ok ⟨Backend.Rest.descriptor, "kubernetes"⟩ := rfl
  rw [elsewhere] at aimed
  cases aimed
  exact absurd answers (by decide)

end Service

end Web

end FleetSearch
