import Mathlib.Data.List.Infix
import FleetSearch.Backend.Builtin
import FleetSearch.Config.Resolver
import FleetSearch.Proofs.Text.Separated

/-! Which environment variables the options of a section are taken from. The name of a section and
that of an option are joined by an underscore, which both can have in them; the options of the
built-in backends are called so that the name of a variable still tells them apart. -/

namespace FleetSearch

namespace Backend

variable {part other name option : String} {descriptor : Descriptor} {parameter : Parameter}

theorem variableSpelling_append (front back : String) :
    variableSpelling (front ++ back) = variableSpelling front ++ variableSpelling back := by
  simp [variableSpelling, Unicode.upper, Text.replaceChar, String.ofList_append]

theorem sectionEnvironmentName_eq (part name : String) : sectionEnvironmentName part name =
    "HONEY_CONFIG_" ++ (variableSpelling part ++ "_" ++ variableSpelling name) := by
  have underscore : variableSpelling "_" = "_" := by decide
  rw [sectionEnvironmentName, variableSpelling_append, variableSpelling_append, underscore]

/-- Whether the name of an option ends with an underscore and the name of another one, as variables
spell them. -/
def EndsIn (name other : String) : Prop :=
  '_' :: (variableSpelling other).toList <:+ (variableSpelling name).toList

instance (name other : String) : Decidable (EndsIn name other) :=
  inferInstanceAs (Decidable (_ <:+ _))

/-- Options of which neither ends in the other have one variable only in sections that are spelled
alike. -/
theorem variableSpelling_eq_of_section (apart : ¬ EndsIn name option ∧ ¬ EndsIn option name)
    (same : sectionEnvironmentName part name = sectionEnvironmentName other option) :
    variableSpelling part = variableSpelling other := by
  rw [sectionEnvironmentName_eq, sectionEnvironmentName_eq, String.append_right_inj] at same
  have underscore : "_".toList = ['_'] := rfl
  rcases Text.separator_cases underscore same with
    ⟨parts, _⟩ | ⟨rest, _, names⟩ | ⟨rest, _, names⟩
  · exact parts
  · exact absurd ⟨rest.toList, by simp [names]⟩ apart.1
  · exact absurd ⟨rest.toList, by simp [names]⟩ apart.2

/-- The names of the built-in backends, each with its options. -/
def builtinOptions : List (String × List Parameter) :=
  [(Consul.name, Consul.parameters), (Rest.name, Rest.parameters)]

section

variable [Pattern.Dialect]

theorem mem_builtinOptions (member : descriptor ∈ builtin) :
    (descriptor.shortName, descriptor.parameters) ∈ builtinOptions := by
  rcases List.mem_cons.mp member with rfl | last
  · exact List.mem_cons_self
  · rw [List.mem_singleton.mp last]
    exact List.mem_cons_of_mem _ List.mem_cons_self

theorem builtin_apart : ∀ owner ∈ builtin, ∀ parameter ∈ owner.parameters,
    ∀ descriptor ∈ builtin, ∀ option ∈ descriptor.parameters,
      ¬ EndsIn parameter.name option.name := by
  have apart : ∀ own ∈ builtinOptions, ∀ parameter ∈ own.2, ∀ others ∈ builtinOptions,
      ∀ option ∈ others.2, ¬ EndsIn parameter.name option.name := by
    decide +kernel
  intro owner owned parameter declared descriptor member option asked
  exact apart _ (mem_builtinOptions owned) parameter declared _ (mem_builtinOptions member) option
    asked

theorem builtin_unlike_section : ∀ descriptor ∈ builtin, ∀ parameter ∈ descriptor.parameters,
    ¬ "HONEY_CONFIG_".toList <+: (parameter.environmentName descriptor.shortName).toList := by
  have unlike : ∀ own ∈ builtinOptions, ∀ parameter ∈ own.2,
      ¬ "HONEY_CONFIG_".toList <+: (parameter.environmentName own.1).toList := by
    decide +kernel
  exact fun descriptor member => unlike _ (mem_builtinOptions member)

theorem builtin_prefixed : ∀ descriptor ∈ builtin, ∀ parameter ∈ descriptor.parameters,
    parameter.isUnprefixed = false := by
  have namespaced : ∀ own ∈ builtinOptions, ∀ parameter ∈ own.2,
      parameter.isUnprefixed = false := by
    decide
  exact fun descriptor member => namespaced _ (mem_builtinOptions member)

end

end Backend

namespace Config.Resolver

open FleetSearch.Backend (Descriptor Parameter sectionEnvironmentName environmentName)

variable {settings : Settings} {first second : Environment} {descriptor owner : Descriptor}
  {part other : String} {parameter : Parameter}

/-- The variables that an option of a section can have its value from. -/
def readNames (descriptor : Descriptor) (part : String) (parameter : Parameter) : List String :=
  [sectionEnvironmentName part parameter.name, parameter.environmentName descriptor.shortName] ++
    if parameter.isUnprefixed then [environmentName parameter.name] else []

theorem value?_congr_environment
    (same : ∀ name ∈ readNames descriptor part parameter, first name = second name) :
    (Resolver.mk settings first).value? descriptor part parameter =
      (Resolver.mk settings second).value? descriptor part parameter := by
  have nonempty (name : String) (read : name ∈ readNames descriptor part parameter) :
      first.nonempty? name = second.nonempty? name := by
    rw [Environment.nonempty?, Environment.nonempty?, same name read]
  have own := nonempty (sectionEnvironmentName part parameter.name) (by simp [readNames])
  have shared := nonempty (parameter.environmentName descriptor.shortName) (by simp [readNames])
  simp only [value?, own, shared]
  split
  · rename_i bare
    rw [nonempty (environmentName parameter.name) (by simp [readNames, bare])]
  · rfl

theorem declared_congr_environment {parameters : List Parameter}
    (same : ∀ parameter ∈ parameters, ∀ name ∈ readNames descriptor part parameter,
      first name = second name) (values : Values) :
    (Resolver.mk settings first).declared descriptor part values parameters =
      (Resolver.mk settings second).declared descriptor part values parameters := by
  induction parameters generalizing values with
  | nil => rfl
  | cons parameter rest ih =>
    obtain ⟨own, others⟩ := List.forall_mem_cons.mp same
    rw [declared, declared, value?_congr_environment own]
    split
    · exact ih others _
    · rw [ih others]

theorem resolve_congr_environment
    (same : ∀ parameter ∈ descriptor.parameters, ∀ name ∈ readNames descriptor part parameter,
      first name = second name) :
    (Resolver.mk settings first).resolve descriptor part =
      (Resolver.mk settings second).resolve descriptor part := by
  rw [resolve, resolve, declared_congr_environment same]

/-- A built-in backend does not read the variables of sections that are spelled otherwise. -/
theorem ne_of_mem_readNames [Pattern.Dialect]
    (different : Backend.variableSpelling part ≠ Backend.variableSpelling other)
    (owned : owner ∈ Backend.builtin) (declared : parameter ∈ owner.parameters)
    (member : descriptor ∈ Backend.builtin) {option : Parameter}
    (asked : option ∈ descriptor.parameters) {name : String}
    (read : name ∈ readNames descriptor other option) :
    name ≠ sectionEnvironmentName part parameter.name := by
  rintro rfl
  rw [readNames, Backend.builtin_prefixed descriptor member option asked] at read
  rcases List.mem_cons.mp read with own | shared
  · exact different (Backend.variableSpelling_eq_of_section
      ⟨Backend.builtin_apart owner owned parameter declared descriptor member option asked,
        Backend.builtin_apart descriptor member option asked owner owned parameter declared⟩ own)
  · have shared : sectionEnvironmentName part parameter.name =
        option.environmentName descriptor.shortName := by simpa using shared
    refine Backend.builtin_unlike_section descriptor member option asked ?_
    rw [← shared, sectionEnvironmentName, String.toList_append]
    exact List.prefix_append _ _

/-- The variable that gives an option of a built-in backend its value in one section has no effect
on the options of a built-in backend in a section that is spelled otherwise in variables. -/
theorem resolve_of_other_section [Pattern.Dialect]
    (different : Backend.variableSpelling part ≠ Backend.variableSpelling other)
    (owned : owner ∈ Backend.builtin) (declared : parameter ∈ owner.parameters)
    (member : descriptor ∈ Backend.builtin)
    (same : ∀ name, name ≠ sectionEnvironmentName part parameter.name → first name = second name) :
    (Resolver.mk settings first).resolve descriptor other =
      (Resolver.mk settings second).resolve descriptor other :=
  resolve_congr_environment fun _ asked _ read =>
    same _ (ne_of_mem_readNames different owned declared member asked read)

/-- Two inventories, of which the name of one starts with that of the other. -/
def inventories : Settings :=
  let options : Entries Yaml.Value := [("url", .string "http://h/")]
  { backends := [("rest", { options }), ("rest-private", { kind := some "rest", options })] }

theorem resolve_of_other_section_private :
    let token : Parameter := { name := "token", help := "Bearer token", isPassword := true }
    let given : Environment := .ofEntries [("HONEY_CONFIG_REST_PRIVATE_TOKEN", "secret")]
    let bare : Environment := .ofEntries []
    let resolve := fun environment part =>
      (Resolver.mk inventories environment).resolve Backend.Rest.descriptor part
    Backend.variableSpelling "rest-private" ≠ Backend.variableSpelling "rest" ∧
      Backend.Rest.descriptor ∈ Backend.builtin ∧ token ∈ Backend.Rest.descriptor.parameters ∧
      (∀ name, name ≠ sectionEnvironmentName "rest-private" token.name → given name = bare name) ∧
      resolve given "rest" = resolve bare "rest" ∧
      resolve given "rest-private" ≠ resolve bare "rest-private" := by
  intro token given bare resolve
  have different : Backend.variableSpelling "rest-private" ≠ Backend.variableSpelling "rest" := by
    decide
  have owned : Backend.Rest.descriptor ∈ Backend.builtin := by simp [Backend.builtin]
  have declared : token ∈ Backend.Rest.descriptor.parameters := by decide
  have spelled : sectionEnvironmentName "rest-private" token.name =
      "HONEY_CONFIG_REST_PRIVATE_TOKEN" := by decide
  have same : ∀ name, name ≠ sectionEnvironmentName "rest-private" token.name →
      given name = bare name := by
    intro name other
    rw [spelled] at other
    simp [given, bare, Environment.ofEntries, Entries.get?, other]
  exact ⟨different, owned, declared, same,
    resolve_of_other_section different owned declared owned same, by decide +kernel⟩

end Config.Resolver

end FleetSearch
