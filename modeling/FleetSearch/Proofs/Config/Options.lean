import Mathlib.Data.List.Nodup
import FleetSearch.Config.Resolver
import FleetSearch.Proofs.Entries

/-! The values that a backend is built from. A declared option has the first value that its sources
give it, and it is an error if a required one has none. What else a section holds comes along. -/

namespace FleetSearch.Config

open FleetSearch.Backend (Descriptor Parameter)

namespace Resolver

variable {resolver : Resolver} {descriptor : Descriptor} {part name : String}
  {values found : Values} {parameters : List Parameter} {error : ConfigError}

/-- What an option can have its value from, the first choice first: the variable of its section, the
bare variable if it goes by its bare name, the variable of its backend, the settings, and the
default. Variables that are empty give no value. -/
def sources (resolver : Resolver) (descriptor : Descriptor) (part : String)
    (parameter : Parameter) : List (Option String) :=
  [resolver.environment.nonempty? (Backend.sectionEnvironmentName part parameter.name),
    if parameter.isUnprefixed then
      resolver.environment.nonempty? (Backend.environmentName parameter.name) else none,
    resolver.environment.nonempty? (parameter.environmentName descriptor.shortName),
    (resolver.settings.section? part).bind (·.get? parameter.name),
    parameter.default]

/-- The value of an option is the first that a source gives. -/
theorem value?_eq_findSome? (resolver : Resolver) (descriptor : Descriptor) (part : String)
    (parameter : Parameter) : resolver.value? descriptor part parameter =
      (resolver.sources descriptor part parameter).findSome? id := by
  have next {α : Type} (first : Option α) (rest : List (Option α)) :
      (first :: rest).findSome? id = (first <|> rest.findSome? id) := by
    cases first <;> rfl
  simp only [value?, sources, next, List.findSome?_nil]
  cases parameter.default <;> rfl

/-- Whether an option has to have a value and has none. -/
def lacks (resolver : Resolver) (descriptor : Descriptor) (part : String)
    (parameter : Parameter) : Bool :=
  parameter.required && (resolver.value? descriptor part parameter).isNone

theorem lacks_eq_false_iff {parameter : Parameter} :
    resolver.lacks descriptor part parameter = false ↔
      (parameter.required = true → (resolver.value? descriptor part parameter).isSome = true) := by
  simp [lacks]

/-- Declared options can be set exactly if none of them lacks a value. -/
theorem exists_declared_iff (values : Values) :
    (∃ found, resolver.declared descriptor part values parameters = .ok found) ↔
      ∀ parameter ∈ parameters, resolver.lacks descriptor part parameter = false := by
  induction parameters generalizing values with
  | nil => simp [declared]
  | cons parameter rest ih =>
    rw [declared, List.forall_mem_cons]
    cases given : resolver.value? descriptor part parameter with
    | some value => simpa [lacks, given] using ih (values.set parameter.name value)
    | none =>
      cases needed : parameter.required with
      | true => simp [lacks, given, needed]
      | false => simpa [lacks, needed] using ih values

/-- If they cannot be set, the error names the first of them that lacks a value. -/
theorem declared_eq_error_iff :
    resolver.declared descriptor part values parameters = .error error ↔
      ∃ parameter, parameters.find? (resolver.lacks descriptor part) = some parameter ∧
        error = .missingOption part parameter.name := by
  induction parameters generalizing values with
  | nil => simp [declared]
  | cons parameter rest ih =>
    rw [declared, List.find?_cons]
    cases given : resolver.value? descriptor part parameter with
    | some value => simpa [lacks, given] using ih
    | none =>
      cases needed : parameter.required with
      | true => simp [lacks, given, needed, eq_comm]
      | false => simpa [lacks, needed] using ih

theorem get?_set_of_ne {other value : String} {values : Values} (different : name ≠ other) :
    (values.set other value).get? name = values.get? name :=
  Entries.get?_insert_of_ne different value values.entries

theorem get?_set_self {value : String} {values : Values} :
    (values.set name value).get? name = some value :=
  Entries.get?_insert_self name value values.entries

theorem get?_declared (undeclared : ∀ parameter ∈ parameters, parameter.name ≠ name)
    (set : resolver.declared descriptor part values parameters = .ok found) :
    found.get? name = values.get? name := by
  induction parameters generalizing values with
  | nil =>
    cases set
    rfl
  | cons parameter rest ih =>
    obtain ⟨different, undeclared⟩ := List.forall_mem_cons.mp undeclared
    rw [declared] at set
    split at set
    · rw [ih undeclared set, get?_set_of_ne (Ne.symm different)]
    · split at set
      · cases set
      · exact ih undeclared set

theorem get?_declared_of_mem {parameter : Parameter}
    (distinct : (parameters.map Parameter.name).Nodup) (member : parameter ∈ parameters)
    (set : resolver.declared descriptor part values parameters = .ok found) :
    found.get? parameter.name =
      (resolver.value? descriptor part parameter <|> values.get? parameter.name) := by
  induction parameters generalizing values with
  | nil => cases member
  | cons first rest ih =>
    obtain ⟨fresh, distinct⟩ := List.nodup_cons.mp distinct
    rw [declared] at set
    rcases List.mem_cons.mp member with rfl | later
    · have others : ∀ other ∈ rest, other.name ≠ parameter.name :=
        fun other present same => fresh (same ▸ List.mem_map_of_mem present)
      split at set
      · rename_i value given
        rw [get?_declared others set, get?_set_self, given]
        rfl
      · rename_i absent
        rw [absent]
        split at set
        · cases set
        · exact get?_declared others set
    · have different : parameter.name ≠ first.name :=
        fun same => fresh (same ▸ List.mem_map_of_mem later)
      split at set
      · rw [ih distinct later set, get?_set_of_ne different]
      · split at set
        · cases set
        · exact ih distinct later set

theorem sorted_declared (sorted : Entries.Sorted values.entries)
    (set : resolver.declared descriptor part values parameters = .ok found) :
    Entries.Sorted found.entries := by
  induction parameters generalizing values with
  | nil =>
    cases set
    exact sorted
  | cons parameter rest ih =>
    rw [declared] at set
    split at set
    · exact ih (sorted.insert _ _) set
    · split at set
      · cases set
      · exact ih sorted set

/-- Values with one more option of a section, if that is not declared and has a value. -/
def passed (descriptor : Descriptor) (found : Section) (values : Values) (other : String) :
    Values :=
  if (descriptor.parameter? other).isSome then values
  else match found.get? other with
    | some value => values.set other value
    | none => values

theorem undeclared_eq (descriptor : Descriptor) (found : Section) (values : Values) :
    undeclared descriptor found values =
      (Entries.keys found.options).foldl (passed descriptor found) values := by
  rw [Entries.keys, List.foldl_map]
  rfl

theorem get?_passed_self (free : descriptor.parameter? name = none) (found : Section)
    (values : Values) : (passed descriptor found values name).get? name =
      (found.get? name <|> values.get? name) := by
  cases given : found.get? name with
  | none => simp [passed, free, given]
  | some value => simp [passed, free, given, get?_set_self]

theorem get?_passed_of_ne {other : String} (different : name ≠ other) (found : Section)
    (values : Values) : (passed descriptor found values other).get? name = values.get? name := by
  unfold passed
  split
  · rfl
  · split
    · exact get?_set_of_ne different
    · rfl

theorem get?_undeclared (free : descriptor.parameter? name = none) (found : Section)
    (values : Values) : (undeclared descriptor found values).get? name =
      (found.get? name <|> values.get? name) := by
  have collected (others : List String) (values : Values) :
      (others.foldl (passed descriptor found) values).get? name =
        if name ∈ others then (found.get? name <|> values.get? name) else values.get? name := by
    induction others generalizing values with
    | nil => rfl
    | cons other rest ih =>
      rw [List.foldl_cons, ih]
      by_cases same : name = other
      · subst same
        rw [get?_passed_self free, if_pos List.mem_cons_self]
        cases found.get? name <;> simp
      · simp [get?_passed_of_ne same, same]
  rw [undeclared_eq, collected]
  split
  · rfl
  · rename_i absent
    have missing : found.get? name = none := by
      cases here : Entries.get? name found.options with
      | none => simp [Section.get?, here]
      | some value => exact absurd (Entries.mem_keys_of_get? here) absent
    simp [missing]

theorem get?_undeclared_of_declared (declared : (descriptor.parameter? name).isSome = true)
    (found : Section) (values : Values) :
    (undeclared descriptor found values).get? name = values.get? name := by
  rw [undeclared_eq]
  induction Entries.keys found.options generalizing values with
  | nil => rfl
  | cons other rest ih =>
    rw [List.foldl_cons, ih]
    by_cases same : name = other
    · subst same
      simp [passed, declared]
    · exact get?_passed_of_ne same found values

theorem sorted_undeclared (sorted : Entries.Sorted values.entries) (descriptor : Descriptor)
    (found : Section) : Entries.Sorted (undeclared descriptor found values).entries := by
  rw [undeclared_eq]
  induction Entries.keys found.options generalizing values with
  | nil => exact sorted
  | cons other rest ih =>
    rw [List.foldl_cons]
    refine ih ?_
    unfold passed
    split
    · exact sorted
    · split
      · exact sorted.insert _ _
      · exact sorted

/-- Values with what else the section holds, if there is the section. -/
def completed (resolver : Resolver) (descriptor : Descriptor) (part : String) (values : Values) :
    Values :=
  match resolver.settings.section? part with
  | some found => undeclared descriptor found values
  | none => values

theorem resolve_eq (resolver : Resolver) (descriptor : Descriptor) (part : String) :
    resolver.resolve descriptor part =
      (resolver.declared descriptor part {} descriptor.parameters).map
        (resolver.completed descriptor part) := by
  unfold resolve completed
  cases resolver.declared descriptor part {} descriptor.parameters with
  | error error => rfl
  | ok values => cases resolver.settings.section? part <;> rfl

theorem of_resolve (resolved : resolver.resolve descriptor part = .ok values) :
    ∃ found, resolver.declared descriptor part {} descriptor.parameters = .ok found ∧
      resolver.completed descriptor part found = values := by
  rw [resolve_eq] at resolved
  cases set : resolver.declared descriptor part {} descriptor.parameters with
  | error error => simp [set, Except.map] at resolved
  | ok found => exact ⟨found, rfl, by simpa [set, Except.map] using resolved⟩

theorem exists_resolve_iff : (∃ values, resolver.resolve descriptor part = .ok values) ↔
    ∀ parameter ∈ descriptor.parameters, resolver.lacks descriptor part parameter = false := by
  rw [← exists_declared_iff {}, resolve_eq]
  cases resolver.declared descriptor part {} descriptor.parameters <;> simp [Except.map]

theorem resolve_eq_error_iff : resolver.resolve descriptor part = .error error ↔
    ∃ parameter, descriptor.parameters.find? (resolver.lacks descriptor part) = some parameter ∧
      error = .missingOption part parameter.name := by
  have declaredAlone : resolver.resolve descriptor part = .error error ↔
      resolver.declared descriptor part {} descriptor.parameters = .error error := by
    rw [resolve_eq]
    cases resolver.declared descriptor part {} descriptor.parameters <;> simp [Except.map]
  exact declaredAlone.trans declared_eq_error_iff

theorem get?_resolve_of_free (free : descriptor.parameter? name = none)
    (resolved : resolver.resolve descriptor part = .ok values) :
    values.get? name = (resolver.settings.section? part).bind (·.get? name) := by
  obtain ⟨found, set, rfl⟩ := of_resolve resolved
  have undeclared : ∀ parameter ∈ descriptor.parameters, parameter.name ≠ name := by
    intro parameter member same
    have free := List.find?_eq_none.mp free parameter member
    simp [same] at free
  have unset : found.get? name = none := get?_declared undeclared set
  unfold completed
  cases present : resolver.settings.section? part with
  | none => simpa using unset
  | some own =>
    rw [get?_undeclared free, unset]
    cases given : own.get? name <;> simp [given]

theorem get?_resolve_of_mem {parameter : Parameter}
    (distinct : (descriptor.parameters.map Parameter.name).Nodup)
    (member : parameter ∈ descriptor.parameters)
    (resolved : resolver.resolve descriptor part = .ok values) :
    values.get? parameter.name = resolver.value? descriptor part parameter := by
  obtain ⟨found, set, rfl⟩ := of_resolve resolved
  have declared : (descriptor.parameter? parameter.name).isSome = true :=
    List.find?_isSome.mpr ⟨parameter, member, by simp⟩
  have given : found.get? parameter.name = resolver.value? descriptor part parameter := by
    rw [get?_declared_of_mem distinct member set]
    cases resolver.value? descriptor part parameter <;> rfl
  unfold completed
  cases resolver.settings.section? part with
  | none => exact given
  | some own => exact (get?_undeclared_of_declared declared own found).trans given

theorem sorted_resolve (resolved : resolver.resolve descriptor part = .ok values) :
    Entries.Sorted values.entries := by
  obtain ⟨found, set, rfl⟩ := of_resolve resolved
  have empty : Entries.Sorted ({} : Values).entries := List.Pairwise.nil
  have sorted := sorted_declared empty set
  unfold completed
  split
  · exact sorted_undeclared sorted descriptor _
  · exact sorted

/-- The options of a backend, which have different names, can be resolved exactly if every required
one has a value, that is one of its sources gives it one; the first that does counts. The values are
then those of the declared options that have one, and what else the section of the settings holds
that is not empty, and nothing else. If they cannot be resolved, the error names the section and the
first required option in order that has no value. -/
theorem resolve_exact (resolver : Resolver) (descriptor : Descriptor) (part : String)
    (distinct : (descriptor.parameters.map Parameter.name).Nodup) :
    let value? := fun parameter => (resolver.sources descriptor part parameter).findSome? id
    ((∃ values, resolver.resolve descriptor part = .ok values) ↔
      ∀ parameter ∈ descriptor.parameters, parameter.required = true →
        (value? parameter).isSome = true) ∧
    (∀ values, resolver.resolve descriptor part = .ok values →
      Entries.Sorted values.entries ∧
      ∀ name value, values.get? name = some value ↔
        (∃ parameter ∈ descriptor.parameters, parameter.name = name ∧
          value? parameter = some value) ∨
        (∀ parameter ∈ descriptor.parameters, parameter.name ≠ name) ∧
          ∃ found, resolver.settings.section? part = some found ∧
            found.get? name = some value) ∧
    ∀ error, resolver.resolve descriptor part = .error error ↔
      ∃ parameter,
        descriptor.parameters.find?
          (fun parameter => parameter.required && (value? parameter).isNone) = some parameter ∧
        error = .missingOption part parameter.name := by
  simp only [← value?_eq_findSome?]
  refine ⟨?_, ?_, fun error => resolve_eq_error_iff⟩
  · simp only [exists_resolve_iff, lacks_eq_false_iff]
  · intro values resolved
    refine ⟨sorted_resolve resolved, fun name value => ?_⟩
    cases declared : descriptor.parameter? name with
    | some parameter =>
      have member := List.mem_of_find?_eq_some declared
      have named : parameter.name = name := by simpa using List.find?_some declared
      subst named
      rw [get?_resolve_of_mem distinct member resolved]
      constructor
      · exact fun given => .inl ⟨parameter, member, rfl, given⟩
      · rintro (⟨other, present, same, given⟩ | ⟨free, _⟩)
        · rwa [← List.inj_on_of_nodup_map distinct present member same]
        · exact absurd rfl (free parameter member)
    | none =>
      have free : ∀ parameter ∈ descriptor.parameters, parameter.name ≠ name := by
        intro parameter member same
        have unnamed := List.find?_eq_none.mp declared parameter member
        simp [same] at unnamed
      rw [get?_resolve_of_free declared resolved, Option.bind_eq_some_iff]
      constructor
      · exact fun given => .inr ⟨free, given⟩
      · rintro (⟨parameter, member, named, _⟩ | ⟨_, given⟩)
        · exact absurd named (free parameter member)
        · exact given

/-- A backend with an option for each of the sources. -/
def catalog : Descriptor :=
  { name := "catalog", shortName := "cat", description := ""
    parameters := [
      { name := "address", help := "Address", default := some "http://127.0.0.1:8500" },
      { name := "token", help := "Token", isPassword := true },
      { name := "region", help := "Region", isUnprefixed := true },
      { name := "zone", help := "Zone", required := true },
      { name := "scope", help := "Scope", required := true }]
    factory := fun _ _ => .error (.ofText "not built") }

/-- Settings and variables, some of which are empty. -/
def layered : Resolver :=
  { settings :=
      { backends := [("eu", { kind := some "catalog", options := [("extra", .bool true),
          ("scope", .string "file"), ("token", .string "file"), ("zone", .string "")] })] }
    environment := .ofEntries [("HONEY_CAT_ZONE", "variable"), ("HONEY_CONFIG_EU_REGION", ""),
      ("HONEY_CONFIG_EU_TOKEN", "variable"), ("HONEY_CAT_TOKEN", "other"),
      ("HONEY_REGION", "bare")] }

theorem resolve_exact_catalog : (catalog.parameters.map Parameter.name).Nodup ∧
    (∃ values, layered.resolve catalog "eu" = .ok values ∧
      values.get? "address" = some "http://127.0.0.1:8500" ∧
      values.get? "token" = some "variable" ∧ values.get? "region" = some "bare" ∧
      values.get? "zone" = some "variable" ∧ values.get? "scope" = some "file" ∧
      values.get? "extra" = some "true" ∧ values.get? "type" = none) ∧
    layered.resolve catalog "us" = .error (.missingOption "us" "scope") := by
  have distinct : (catalog.parameters.map Parameter.name).Nodup := by decide
  obtain ⟨succeeds, holds, _⟩ := resolve_exact layered catalog "eu" distinct
  obtain ⟨_, _, fails⟩ := resolve_exact layered catalog "us" distinct
  obtain ⟨values, resolved⟩ := succeeds.mpr (by decide +kernel)
  have given := (holds values resolved).2
  have unnamed : ∀ parameter ∈ catalog.parameters, parameter.name ≠ "type" := by decide
  refine ⟨distinct, ⟨values, resolved, ?_, ?_, ?_, ?_, ?_, ?_, ?_⟩, (fails _).mpr ?_⟩
  · exact (given "address" _).mpr (.inl (by decide +kernel))
  · exact (given "token" _).mpr (.inl (by decide +kernel))
  · exact (given "region" _).mpr (.inl (by decide +kernel))
  · exact (given "zone" _).mpr (.inl (by decide +kernel))
  · exact (given "scope" _).mpr (.inl (by decide +kernel))
  · exact (given "extra" _).mpr (.inr ⟨by decide, _, rfl, rfl⟩)
  · refine Option.eq_none_iff_forall_not_mem.mpr fun value found => ?_
    rcases (given "type" value).mp found with ⟨parameter, member, named, _⟩ | ⟨_, own, here, held⟩
    · exact absurd named (unnamed parameter member)
    · cases here
      cases held
  · exact ⟨{ name := "scope", help := "Scope", required := true }, by decide +kernel, rfl⟩

end Resolver

end FleetSearch.Config
