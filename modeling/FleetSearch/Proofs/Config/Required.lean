import FleetSearch.Proofs.Config.Options

/-! Values of required options. Every source but the default gives only values that are not empty,
and of options with one name the last that has a value decides, so a required option is empty
exactly if that one has nothing but an empty default. -/

namespace FleetSearch.Config

open FleetSearch.Backend (Descriptor Parameter)

theorem Environment.nonempty?_ne_empty (environment : Environment) (name : String) :
    environment.nonempty? name ≠ some "" := by
  simp [nonempty?, Option.filter_eq_some_iff]

theorem Section.get?_ne_empty (own : Section) (name : String) : own.get? name ≠ some "" := by
  simp [get?, Option.filter_eq_some_iff]

namespace Resolver

variable {resolver : Resolver} {descriptor : Descriptor} {part name : String}
  {values found : Values} {parameters : List Parameter} {parameter : Parameter}

/-- Whether nothing but its default can give an option a value. -/
def IsLeft (resolver : Resolver) (descriptor : Descriptor) (part : String)
    (parameter : Parameter) : Prop :=
  ∀ source ∈ (resolver.sources descriptor part parameter).dropLast, source = none

instance (resolver : Resolver) (descriptor : Descriptor) (part : String) (parameter : Parameter) :
    Decidable (resolver.IsLeft descriptor part parameter) :=
  inferInstanceAs (Decidable (∀ source ∈ (resolver.sources descriptor part parameter).dropLast,
    source = none))

theorem source_ne {source : Option String}
    (member : source ∈ (resolver.sources descriptor part parameter).dropLast) :
    source ≠ some "" := by
  simp only [sources, List.dropLast_cons_cons, List.dropLast_singleton, List.mem_cons,
    List.not_mem_nil, or_false] at member
  rcases member with rfl | rfl | rfl | rfl
  · exact Environment.nonempty?_ne_empty _ _
  · split
    · exact Environment.nonempty?_ne_empty _ _
    · simp
  · exact Environment.nonempty?_ne_empty _ _
  · intro given
    obtain ⟨own, _, given⟩ := Option.bind_eq_some_iff.mp given
    exact own.get?_ne_empty _ given

theorem value?_eq_empty_iff : resolver.value? descriptor part parameter = some "" ↔
    resolver.IsLeft descriptor part parameter ∧ parameter.default = some "" := by
  have split : resolver.sources descriptor part parameter =
      (resolver.sources descriptor part parameter).dropLast ++ [parameter.default] := rfl
  rw [value?_eq_findSome?, split, List.findSome?_append]
  constructor
  · intro empty
    cases first : (resolver.sources descriptor part parameter).dropLast.findSome? id with
    | none =>
      refine ⟨fun source member => List.findSome?_eq_none_iff.mp first source member, ?_⟩
      rw [first, Option.none_or, List.findSome?_singleton] at empty
      exact empty
    | some value =>
      obtain ⟨source, member, given⟩ := List.exists_of_findSome?_eq_some first
      rw [first, Option.some_or] at empty
      cases empty
      exact absurd given (source_ne member)
  · rintro ⟨left, empty⟩
    have none : (resolver.sources descriptor part parameter).dropLast.findSome? id = none :=
      List.findSome?_eq_none_iff.mpr left
    rw [none, Option.none_or, List.findSome?_singleton]
    exact empty

/-- Of the options with a name, the last that has a value. -/
def decisive? (resolver : Resolver) (descriptor : Descriptor) (part name : String)
    (parameters : List Parameter) : Option Parameter :=
  parameters.reverse.find? fun parameter =>
    parameter.name == name && (resolver.value? descriptor part parameter).isSome

theorem decisive?_cons (parameter : Parameter) (rest : List Parameter) :
    resolver.decisive? descriptor part name (parameter :: rest) =
      (resolver.decisive? descriptor part name rest <|>
        if parameter.name = name ∧ (resolver.value? descriptor part parameter).isSome = true then
          some parameter else none) := by
  rw [decisive?, List.reverse_cons, List.find?_append, List.find?_singleton]
  simp [decisive?]

theorem of_decisive? (decides : resolver.decisive? descriptor part name parameters =
    some parameter) : parameter ∈ parameters ∧ parameter.name = name ∧
      (resolver.value? descriptor part parameter).isSome = true := by
  have member := List.mem_of_find?_eq_some decides
  have fits := List.find?_some decides
  simp only [Bool.and_eq_true, beq_iff_eq] at fits
  exact ⟨List.mem_reverse.mp member, fits⟩

/-- Declared options have the value of the last with their name that has one. -/
theorem get?_declared_eq
    (set : resolver.declared descriptor part values parameters = .ok found) (name : String) :
    found.get? name =
      ((resolver.decisive? descriptor part name parameters).bind
        (resolver.value? descriptor part) <|> values.get? name) := by
  induction parameters generalizing values with
  | nil =>
    cases set
    rfl
  | cons parameter rest ih =>
    rw [declared] at set
    rw [decisive?_cons]
    cases later : resolver.decisive? descriptor part name rest with
    | some last =>
      have given := (of_decisive? later).2.2
      obtain ⟨value, given⟩ := Option.isSome_iff_exists.mp given
      split at set
      · simpa [later, given] using ih set
      · split at set
        · cases set
        · simpa [later, given] using ih set
    | none =>
      split at set
      · rename_i value given
        rw [ih set, later]
        by_cases same : parameter.name = name
        · subst same
          simp [given, get?_set_self]
        · simp [same, get?_set_of_ne (Ne.symm same)]
      · rename_i absent
        split at set
        · cases set
        · simpa [later, absent] using ih set

theorem get?_resolve_of_declared (member : parameter ∈ descriptor.parameters)
    (resolved : resolver.resolve descriptor part = .ok values) :
    values.get? parameter.name =
      (resolver.decisive? descriptor part parameter.name descriptor.parameters).bind
        (resolver.value? descriptor part) := by
  obtain ⟨found, set, rfl⟩ := of_resolve resolved
  have declared : (descriptor.parameter? parameter.name).isSome = true :=
    List.find?_isSome.mpr ⟨parameter, member, by simp⟩
  have given : found.get? parameter.name =
      (resolver.decisive? descriptor part parameter.name descriptor.parameters).bind
        (resolver.value? descriptor part) := by
    rw [get?_declared_eq set]
    cases (resolver.decisive? descriptor part parameter.name descriptor.parameters).bind
      (resolver.value? descriptor part) <;> rfl
  unfold completed
  cases resolver.settings.section? part with
  | none => exact given
  | some own => exact (get?_undeclared_of_declared declared own found).trans given

/-- A required option always has a value when the options of a backend are resolved. It is empty
exactly if the last option with its name that has a value is left to an empty default. -/
theorem required_given (resolved : resolver.resolve descriptor part = .ok values)
    (member : parameter ∈ descriptor.parameters) (required : parameter.required = true) :
    ∃ value, values.get? parameter.name = some value ∧
      (value = "" ↔ ∃ last, resolver.decisive? descriptor part parameter.name
        descriptor.parameters = some last ∧ resolver.IsLeft descriptor part last ∧
          last.default = some "") := by
  have fits : (resolver.value? descriptor part parameter).isSome = true :=
    lacks_eq_false_iff.mp (exists_resolve_iff.mp ⟨values, resolved⟩ parameter member) required
  have decided : (resolver.decisive? descriptor part parameter.name
      descriptor.parameters).isSome = true :=
    List.find?_isSome.mpr ⟨parameter, List.mem_reverse.mpr member, by simpa using fits⟩
  obtain ⟨last, decides⟩ := Option.isSome_iff_exists.mp decided
  obtain ⟨value, given⟩ := Option.isSome_iff_exists.mp (of_decisive? decides).2.2
  refine ⟨value, ?_, ?_⟩
  · rw [get?_resolve_of_declared member resolved, decides, Option.bind_some, given]
  · rw [decides]
    constructor
    · rintro rfl
      exact ⟨last, rfl, value?_eq_empty_iff.mp given⟩
    · rintro ⟨_, ⟨⟩, left⟩
      rw [value?_eq_empty_iff.mpr left] at given
      exact (Option.some.inj given).symm

/-- A required option with a default. -/
def demanded (name default : String) : Parameter :=
  { name, help := "", required := true, default := some default }

/-- A backend with empty defaults for two required options, and for a second option with the name
of another one. -/
def lenient : Descriptor :=
  { name := "lenient", shortName := "len", description := ""
    parameters := [demanded "url" "", demanded "zone" "", demanded "scope" "all",
      { name := "scope", help := "", default := some "" }]
    factory := fun _ _ => .error (.ofText "not built") }

/-- No settings, and a variable for one of the options. -/
def zoned : Resolver :=
  { settings := {}, environment := .ofEntries [("HONEY_LEN_ZONE", "eu")] }

theorem resolve_lenient : zoned.resolve lenient "lenient" =
    .ok ⟨[("scope", ""), ("url", ""), ("zone", "eu")]⟩ := by
  decide +kernel

theorem required_given_lenient : ∃ values, zoned.resolve lenient "lenient" = .ok values ∧
    values.get? "url" = some "" ∧ values.get? "scope" = some "" ∧
      ∃ zone, values.get? "zone" = some zone ∧ zone ≠ "" := by
  have urlMember : demanded "url" "" ∈ lenient.parameters := by decide
  have scopeMember : demanded "scope" "all" ∈ lenient.parameters := by decide
  have zoneMember : demanded "zone" "" ∈ lenient.parameters := by decide
  obtain ⟨url, urlGiven, urlEmpty⟩ := required_given resolve_lenient urlMember rfl
  obtain ⟨scope, scopeGiven, scopeEmpty⟩ := required_given resolve_lenient scopeMember rfl
  obtain ⟨zone, zoneGiven, zoneEmpty⟩ := required_given resolve_lenient zoneMember rfl
  refine ⟨_, resolve_lenient, ?_, ?_, zone, zoneGiven, fun empty => ?_⟩
  · rw [urlEmpty.mpr ⟨_, rfl, by decide +kernel, rfl⟩] at urlGiven
    exact urlGiven
  · rw [scopeEmpty.mpr ⟨_, rfl, by decide +kernel, rfl⟩] at scopeGiven
    exact scopeGiven
  · obtain ⟨last, decides, left, _⟩ := zoneEmpty.mp empty
    have decided : zoned.decisive? lenient "lenient" "zone" lenient.parameters =
        some (demanded "zone" "") := by decide +kernel
    cases decided.symm.trans decides
    exact absurd left (by decide +kernel)

/-- An option that has to have a value that is not empty can be resolved to an empty one. -/
theorem required_left_empty : ¬ ∀ (resolver : Resolver) (descriptor : Descriptor) (part : String)
    (values : Values), resolver.resolve descriptor part = .ok values →
      ∀ parameter ∈ descriptor.parameters, parameter.required = true →
        ∃ value, values.get? parameter.name = some value ∧ value ≠ "" := by
  intro claim
  obtain ⟨value, given, filled⟩ :=
    claim zoned lenient "lenient" _ resolve_lenient (demanded "url" "") (by decide) rfl
  cases given
  exact filled rfl

end Resolver

end FleetSearch.Config
