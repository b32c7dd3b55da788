import Mathlib.Data.Fintype.EquivFin
import FleetSearch.Backend.Builtin
import FleetSearch.Proofs.Backend.Registration
import FleetSearch.Proofs.Config.Options

/-! Which backends the options of a section reach. A section with a type configures the backend of
that type, but a backend whose own name is that of the section is configured by it as well, where it
is asked for by its short name. -/

namespace FleetSearch

namespace Config

open FleetSearch.Backend (Descriptor Parameter Registry)

/-- A section of the same type with other options. -/
def Section.withOptions (part : Section) (options : Entries Yaml.Value) : Section :=
  { part with options }

/-- Settings with other options in one of their sections, if they have it. -/
def Settings.withOptions (settings : Settings) (name : String) (options : Entries Yaml.Value) :
    Settings :=
  { settings with
    backends := settings.backends.map fun entry =>
      (entry.1, if entry.1 = name then entry.2.withOptions options else entry.2) }

/-- The type of a section, if there is the section and it selects one. -/
def Settings.type? (settings : Settings) (name : String) : Option String :=
  (settings.section? name).bind Section.type?

section WithOptions

variable {settings : Settings} {name other : String} {options : Entries Yaml.Value}

theorem Settings.section?_withOptions : (settings.withOptions name options).section? other =
    (settings.section? other).map fun part =>
      if other = name then part.withOptions options else part :=
  Entries.get?_map
    (fun key (part : Section) => if key = name then part.withOptions options else part) other
    settings.backends

theorem Settings.section?_withOptions_self {part : Section}
    (present : settings.section? name = some part) :
    (settings.withOptions name options).section? name = some (part.withOptions options) := by
  rw [section?_withOptions, present, Option.map_some, if_pos rfl]

theorem Settings.section?_withOptions_of_ne (different : other ≠ name) :
    (settings.withOptions name options).section? other = settings.section? other := by
  simp [section?_withOptions, different]

theorem Settings.type?_withOptions :
    (settings.withOptions name options).type? other = settings.type? other := by
  rw [type?, type?, section?_withOptions]
  cases settings.section? other with
  | none => rfl
  | some part =>
    rw [Option.map_some, Option.bind_some, Option.bind_some]
    split <;> rfl

end WithOptions

namespace Resolver

variable {resolver first second : Resolver} {registry : Registry} {descriptor : Descriptor}
  {part identifier name : String} {target : Target}

theorem target_eq (resolver : Resolver) (registry : Registry) (identifier : String) :
    resolver.target registry identifier = match resolver.settings.type? identifier with
      | some kind => (registry.find kind).map fun descriptor => ⟨descriptor, identifier⟩
      | none => (registry.find identifier).map fun descriptor => ⟨descriptor, descriptor.name⟩ :=
  rfl

/-- The two ways to a target: by the type of a section, or by a name of a backend. -/
theorem target_cases (aimed : resolver.target registry identifier = .ok target) :
    (∃ kind, resolver.settings.type? identifier = some kind ∧
        registry.find kind = .ok target.descriptor ∧ target.part = identifier) ∨
      resolver.settings.type? identifier = none ∧
        registry.find identifier = .ok target.descriptor ∧
        target.part = target.descriptor.name := by
  have found {name : String} {make : Descriptor → Target}
      (aimed : (registry.find name).map make = .ok target) :
      ∃ descriptor, registry.find name = .ok descriptor ∧ make descriptor = target := by
    cases here : registry.find name with
    | error error => simp [here, Except.map] at aimed
    | ok descriptor => exact ⟨descriptor, rfl, by simpa [here, Except.map] using aimed⟩
  rw [target_eq] at aimed
  cases typed : resolver.settings.type? identifier with
  | some kind =>
    rw [typed] at aimed
    obtain ⟨descriptor, here, rfl⟩ := found aimed
    exact .inl ⟨kind, rfl, here, rfl⟩
  | none =>
    rw [typed] at aimed
    obtain ⟨descriptor, here, rfl⟩ := found aimed
    exact .inr ⟨rfl, here, rfl⟩

/-- A target for which a section is used that selects another backend: the section has the name of
the backend, which is asked for by its short name. -/
theorem part_eq_iff {kind : String} (typed : resolver.settings.type? part = some kind)
    (aimed : resolver.target registry identifier = .ok target)
    (foreign : registry.find kind ≠ .ok target.descriptor) :
    target.part = part ↔ resolver.settings.type? identifier = none ∧
      target.descriptor.name = part ∧ target.descriptor.shortName = identifier := by
  rcases target_cases aimed with ⟨own, selects, found, used⟩ | ⟨untyped, found, used⟩
  · refine ⟨fun same => ?_, fun short => ?_⟩
    · rw [← used, same, typed] at selects
      cases selects
      exact absurd found foreign
    · rw [short.1] at selects
      cases selects
  · rw [used]
    refine ⟨fun same => ⟨untyped, same, ?_⟩, fun short => short.2.1⟩
    rcases Registry.answersTo_iff.mp (Registry.mem_of_find found).2 with called | called
    · rw [← called, same, typed] at untyped
      cases untyped
    · exact called

theorem value?_congr (environment : first.environment = second.environment)
    (same : first.settings.section? part = second.settings.section? part)
    (parameter : Parameter) :
    first.value? descriptor part parameter = second.value? descriptor part parameter := by
  simp only [value?, environment, same]

theorem declared_congr (environment : first.environment = second.environment)
    (same : first.settings.section? part = second.settings.section? part) (values : Values)
    (parameters : List Parameter) :
    first.declared descriptor part values parameters =
      second.declared descriptor part values parameters := by
  induction parameters generalizing values with
  | nil => rfl
  | cons parameter rest ih =>
    rw [declared, declared, value?_congr environment same]
    split
    · exact ih _
    · rw [ih]

theorem resolve_congr (environment : first.environment = second.environment)
    (same : first.settings.section? part = second.settings.section? part) :
    first.resolve descriptor part = second.resolve descriptor part := by
  rw [resolve, resolve, declared_congr environment same, same]

/-- Options that give all of some names one text. -/
def offering (names : List String) : Entries Yaml.Value :=
  Entries.ofPairs (names.map fun name => (name, .string "given"))

theorem get?_offering (found : Section) (names : List String) (name : String) :
    (found.withOptions (offering names)).get? name =
      if name ∈ names then some "given" else none := by
  rw [Section.get?, Section.withOptions, offering, Entries.get?_ofPairs_map]
  split <;> rfl

/-- A backend that is configured by a section with all its options has the other options of the
section as well. -/
theorem resolve_offering (resolver : Resolver) {found : Section} {names : List String}
    (present : resolver.settings.section? part = some (found.withOptions (offering names)))
    (covered : ∀ parameter ∈ descriptor.parameters, parameter.name ∈ names)
    (free : descriptor.parameter? name = none) :
    ∃ values, resolver.resolve descriptor part = .ok values ∧
      values.get? name = if name ∈ names then some "given" else none := by
  have ready : ∀ parameter ∈ descriptor.parameters,
      resolver.lacks descriptor part parameter = false := by
    intro parameter member
    simp [lacks, value?, present, get?_offering, covered parameter member]
  obtain ⟨values, resolved⟩ := exists_resolve_iff.mpr ready
  refine ⟨values, resolved, ?_⟩
  rw [get?_resolve_of_free free resolved, present]
  exact get?_offering found names name

/-- Some option of a section makes a difference to every backend that the section configures. -/
theorem exists_resolve_ne {settings : Settings} {found : Section}
    (present : settings.section? part = some found) (environment : Environment)
    (descriptor : Descriptor) :
    ∃ options others,
      (Resolver.mk (settings.withOptions part options) environment).resolve descriptor part ≠
        (Resolver.mk (settings.withOptions part others) environment).resolve descriptor part := by
  let declared := descriptor.parameters.map Parameter.name
  obtain ⟨name, fresh⟩ := Infinite.exists_notMem_finset declared.toFinset
  rw [List.mem_toFinset] at fresh
  have free : descriptor.parameter? name = none := by
    refine List.find?_eq_none.mpr fun parameter member same => fresh ?_
    rw [beq_iff_eq] at same
    exact same ▸ List.mem_map_of_mem member
  have covered : ∀ parameter ∈ descriptor.parameters, parameter.name ∈ declared :=
    fun parameter member => List.mem_map_of_mem member
  refine ⟨offering declared, offering (name :: declared), fun same => ?_⟩
  let one := Resolver.mk (settings.withOptions part (offering declared)) environment
  let other := Resolver.mk (settings.withOptions part (offering (name :: declared))) environment
  obtain ⟨without, resolved, absent⟩ := resolve_offering one
    (Settings.section?_withOptions_self present) covered free
  obtain ⟨besides, again, given⟩ := resolve_offering other
    (Settings.section?_withOptions_self present)
    (fun parameter member => List.mem_cons_of_mem _ (covered parameter member)) free
  rw [resolved, again] at same
  cases same
  rw [absent, if_neg fresh, if_pos List.mem_cons_self] at given
  cases given

/-- The options of a section with a type do not decide what an identifier leads to. They reach no
backend but the one of that type, unless one is asked for by its short name whose own name is that
of the section; and then they do. -/
theorem options_confined_iff {settings : Settings} {environment : Environment} {found : Section}
    {kind : String} (present : settings.section? part = some found)
    (typed : found.type? = some kind)
    (aimed : (Resolver.mk settings environment).target registry identifier = .ok target)
    (foreign : ∀ chosen, registry.find kind = .ok chosen → target.descriptor ≠ chosen) :
    (∀ options, (Resolver.mk (settings.withOptions part options) environment).target registry
      identifier = .ok target) ∧
    ((∀ options others,
      (Resolver.mk (settings.withOptions part options) environment).resolve target.descriptor
          target.part =
        (Resolver.mk (settings.withOptions part others) environment).resolve target.descriptor
          target.part) ↔
      ¬ (settings.type? identifier = none ∧ target.descriptor.name = part ∧
        target.descriptor.shortName = identifier)) := by
  have selects : settings.type? part = some kind := by
    rw [Settings.type?, present, Option.bind_some, typed]
  have used := part_eq_iff selects aimed fun chosen => foreign _ chosen rfl
  rw [← not_congr used]
  refine ⟨fun options => ?_, ?_, ?_⟩
  · rw [target_eq, Settings.type?_withOptions, ← aimed, target_eq]
  · intro confined same
    obtain ⟨options, others, different⟩ := exists_resolve_ne present
      environment target.descriptor
    rw [same] at confined
    exact different (confined options others)
  · intro elsewhere options others
    refine resolve_congr rfl ?_
    rw [Settings.section?_withOptions_of_ne elsewhere,
      Settings.section?_withOptions_of_ne elsewhere]

/-- A registry in which one backend has a short name. -/
def clusters : Registry := ⟨[Backend.unbuilt "kubernetes" "k8s", Backend.Rest.descriptor]⟩

theorem built_clusters : clusters.Built :=
  have registered : Registry.ofDescriptors clusters.descriptors = .ok clusters := rfl
  Registry.Built.of_ofDescriptors registered

/-- Settings in which a section has the name of a backend and selects another one. -/
def shadowing : Settings :=
  { backends := [("kubernetes", { kind := some "rest" }),
      ("kubernetes-eu", { kind := some "k8s" })] }

theorem kubernetes_ne_rest {chosen : Descriptor} (found : clusters.find "rest" = .ok chosen) :
    Backend.unbuilt "kubernetes" "k8s" ≠ chosen := by
  have rest : clusters.find "rest" = .ok Backend.Rest.descriptor := rfl
  rw [rest] at found
  cases found
  intro same
  exact absurd (congrArg Descriptor.name same) (by decide)

theorem options_confined_kubernetes :
    let configured := fun options : Entries Yaml.Value =>
      Resolver.mk (shadowing.withOptions "kubernetes" options) fun _ => none
    let secret := configured [("token", .string "secret")]
    let other := configured [("token", .string "other")]
    let target : Target := ⟨Backend.unbuilt "kubernetes" "k8s", "kubernetes-eu"⟩
    secret.target clusters "kubernetes-eu" = .ok target ∧
      secret.resolve target.descriptor target.part =
        other.resolve target.descriptor target.part := by
  have present : shadowing.section? "kubernetes" = some { kind := some "rest" } := rfl
  have aimed : (Resolver.mk shadowing fun _ => none).target clusters "kubernetes-eu" =
      .ok ⟨Backend.unbuilt "kubernetes" "k8s", "kubernetes-eu"⟩ := rfl
  have confined := options_confined_iff present rfl aimed fun _ => kubernetes_ne_rest
  exact ⟨confined.1 _, confined.2.mpr (fun short => nomatch short.1) _ _⟩

/-- The options of a section can reach another backend than the one that the section selects. -/
theorem options_handed_over : ¬ ∀ (registry : Registry) (environment : Environment)
    (settings : Settings) (part : String) (found : Section) (kind identifier : String)
    (target : Target) (chosen : Descriptor) (options others : Entries Yaml.Value),
    registry.Built → settings.section? part = some found → found.type? = some kind →
      registry.find kind = .ok chosen →
      (Resolver.mk settings environment).target registry identifier = .ok target →
      target.descriptor ≠ chosen →
      (Resolver.mk (settings.withOptions part options) environment).resolve target.descriptor
          target.part =
        (Resolver.mk (settings.withOptions part others) environment).resolve target.descriptor
          target.part := by
  intro claim
  have same := claim clusters (fun _ => none) shadowing "kubernetes" { kind := some "rest" } "rest"
    "k8s" ⟨Backend.unbuilt "kubernetes" "k8s", "kubernetes"⟩ Backend.Rest.descriptor
    [("token", .string "secret")] [("token", .string "other")] built_clusters rfl rfl rfl rfl
    (kubernetes_ne_rest rfl)
  have leaked : (Resolver.mk (shadowing.withOptions "kubernetes" [("token", .string "secret")])
      fun _ => none).resolve (Backend.unbuilt "kubernetes" "k8s") "kubernetes" =
        .ok ⟨[("token", "secret")]⟩ := rfl
  have besides : (Resolver.mk (shadowing.withOptions "kubernetes" [("token", .string "other")])
      fun _ => none).resolve (Backend.unbuilt "kubernetes" "k8s") "kubernetes" =
        .ok ⟨[("token", "other")]⟩ := rfl
  rw [leaked, besides] at same
  simp at same

end Resolver

end Config

end FleetSearch
