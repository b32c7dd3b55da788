import FleetSearch.Proofs.Backend.Registry

/-! Registrations one after another, each of which may be rejected. What comes of them never holds
two backends with a name in common, and what a name leads to does not depend on their order. -/

namespace FleetSearch.Backend

/-- Whether a name or short name of one backend is a name or short name of another one. -/
def Descriptor.Collides (descriptor other : Descriptor) : Prop :=
  descriptor.name = other.name ∨ descriptor.name = other.shortName ∨
    descriptor.shortName = other.name ∨ descriptor.shortName = other.shortName

theorem Descriptor.Collides.symm {descriptor other : Descriptor}
    (collides : descriptor.Collides other) : other.Collides descriptor := by
  rcases collides with same | same | same | same
  · exact .inl same.symm
  · exact .inr (.inr (.inl same.symm))
  · exact .inr (.inl same.symm)
  · exact .inr (.inr (.inr same.symm))

namespace Registry

/-- The registry after an attempt to register a backend, which is as before if it is rejected. -/
def attempt (registry : Registry) (descriptor : Descriptor) : Registry :=
  match registry.register descriptor with
  | .ok next => next
  | .error _ => registry

/-- The registry after attempts in order. -/
def attempts (registry : Registry) (descriptors : List Descriptor) : Registry :=
  descriptors.foldl attempt registry

variable {registry other : Registry} {descriptor : Descriptor} {name : String}

theorem collides_iff {taken : Descriptor} : descriptor.Collides taken ↔
    taken.answersTo descriptor.name = true ∨ taken.answersTo descriptor.shortName = true := by
  rw [answersTo_iff, answersTo_iff, Descriptor.Collides]
  constructor
  · rintro (same | same | same | same)
    · exact .inl (.inl same.symm)
    · exact .inl (.inr same.symm)
    · exact .inr (.inl same.symm)
    · exact .inr (.inr same.symm)
  · rintro ((same | same) | (same | same))
    · exact .inl same.symm
    · exact .inr (.inl same.symm)
    · exact .inr (.inr (.inl same.symm))
    · exact .inr (.inr (.inr same.symm))

/-- A backend is rejected for the sake of a registered one with which it collides. -/
theorem register_of_collides
    (taken : ∃ existing ∈ registry.descriptors, descriptor.Collides existing) :
    ∃ existing ∈ registry.descriptors, descriptor.Collides existing ∧
      registry.register descriptor = .error (.duplicate descriptor.name existing.name) := by
  cases found : registry.collision? descriptor with
  | none =>
    obtain ⟨existing, member, collides⟩ := taken
    have free := List.find?_eq_none.mp found existing member
    rw [Bool.or_eq_true] at free
    exact absurd (collides_iff.mp collides) free
  | some existing =>
    have answers := List.find?_some found
    rw [Bool.or_eq_true] at answers
    exact ⟨existing, List.mem_of_find?_eq_some found, collides_iff.mpr answers,
      by rw [register, found]⟩

/-- A backend that collides with no registered one is added at the end. -/
theorem register_of_free
    (free : ∀ existing ∈ registry.descriptors, ¬ descriptor.Collides existing) :
    registry.register descriptor = .ok ⟨registry.descriptors ++ [descriptor]⟩ := by
  have found : registry.collision? descriptor = none := by
    refine List.find?_eq_none.mpr fun existing member => ?_
    rw [Bool.or_eq_true]
    exact fun answers => free existing member (collides_iff.mpr answers)
  rw [register, found]

theorem attempt_of_register_eq_error {error : RegistryError}
    (rejected : registry.register descriptor = .error error) :
    registry.attempt descriptor = registry := by
  rw [attempt, rejected]

theorem Built.attempt (built : registry.Built) (descriptor : Descriptor) :
    (registry.attempt descriptor).Built := by
  unfold Registry.attempt
  split
  · rename_i registered
    exact built.register registered
  · exact built

theorem Built.attempts (built : registry.Built) (descriptors : List Descriptor) :
    (registry.attempts descriptors).Built := by
  induction descriptors generalizing registry with
  | nil => exact built
  | cons descriptor rest ih => exact ih (built.attempt descriptor)

theorem attempts_of_pairwise {descriptors : List Descriptor}
    (free : (registry.descriptors ++ descriptors).Pairwise fun first second =>
      ¬ second.Collides first) :
    registry.attempts descriptors = ⟨registry.descriptors ++ descriptors⟩ := by
  induction descriptors generalizing registry with
  | nil => simp [attempts]
  | cons descriptor rest ih =>
    have apart := (List.pairwise_append.mp free).2.2
    have added : registry.attempt descriptor = ⟨registry.descriptors ++ [descriptor]⟩ := by
      rw [attempt, register_of_free fun existing member =>
        apart existing member descriptor List.mem_cons_self]
    have others : (registry.attempt descriptor).attempts rest =
        ⟨(registry.attempt descriptor).descriptors ++ rest⟩ := ih (by simpa [added] using free)
    rw [attempts, List.foldl_cons, ← attempts, others, added]
    simp

theorem Built.length_answering_le_one (built : registry.Built) (name : String) :
    (registry.descriptors.filter (·.answersTo name)).length ≤ 1 := by
  have apart := built.apart.filter (·.answersTo name)
  have answers : ∀ descriptor ∈ registry.descriptors.filter (·.answersTo name),
      descriptor.answersTo name = true := fun _ member => (List.mem_filter.mp member).2
  generalize registry.descriptors.filter (·.answersTo name) = answering at apart answers ⊢
  rcases answering with _ | ⟨first, _ | ⟨second, rest⟩⟩
  · exact Nat.zero_le 1
  · exact Nat.le_refl 1
  · -- The first two would have this name in common.
    have free := (List.pairwise_cons.mp apart).1 second List.mem_cons_self name
      (answers first List.mem_cons_self)
    rw [answers second (List.mem_cons_of_mem _ List.mem_cons_self)] at free
    cases free

theorem find_eq_ok_or_notFound (registry : Registry) (name : String) :
    (∃ descriptor, registry.find name = .ok descriptor) ∨
      registry.find name = .error (.notFound name) := by
  unfold find
  split
  · rename_i descriptor _
    exact .inl ⟨descriptor, rfl⟩
  · exact .inr rfl

/-- What a name leads to depends on which backends are registered alone. -/
theorem Built.find_eq_of_mem_iff (built : registry.Built) (otherBuilt : other.Built)
    (same : ∀ descriptor, descriptor ∈ registry.descriptors ↔ descriptor ∈ other.descriptors)
    (name : String) : registry.find name = other.find name := by
  rcases registry.find_eq_ok_or_notFound name with ⟨descriptor, found⟩ | missing
  · obtain ⟨member, answers⟩ := mem_of_find found
    rw [found, otherBuilt.find_of_answersTo ((same descriptor).mp member) answers]
  · rcases other.find_eq_ok_or_notFound name with ⟨descriptor, found⟩ | missingToo
    · obtain ⟨member, answers⟩ := mem_of_find found
      rw [built.find_of_answersTo ((same descriptor).mpr member) answers, found]
    · rw [missing, missingToo]

/-- After any attempts, a name leads to at most one backend and every backend is found by both of
its names; a further backend is rejected, with nothing changed, if it collides with a registered
one, and added at the end if it does not. Backends that do not collide with one another are all
registered, and whatever their order, a name leads to the same one. -/
theorem attempts_lookup (descriptors : List Descriptor) :
    let registry := empty.attempts descriptors
    (∀ name, (registry.descriptors.filter (·.answersTo name)).length ≤ 1) ∧
    (∀ descriptor ∈ registry.descriptors, registry.find descriptor.name = .ok descriptor ∧
      registry.find descriptor.shortName = .ok descriptor) ∧
    (∀ descriptor, (∃ existing ∈ registry.descriptors, descriptor.Collides existing) →
      (∃ existing ∈ registry.descriptors, descriptor.Collides existing ∧
        registry.register descriptor = .error (.duplicate descriptor.name existing.name)) ∧
      registry.attempt descriptor = registry) ∧
    (∀ descriptor, (∀ existing ∈ registry.descriptors, ¬ descriptor.Collides existing) →
      registry.register descriptor = .ok (registry.attempt descriptor) ∧
      (registry.attempt descriptor).descriptors = registry.descriptors ++ [descriptor]) ∧
    (descriptors.Pairwise (fun first second => ¬ first.Collides second) →
      ∀ order, order.Perm descriptors → (empty.attempts order).descriptors = order ∧
        ∀ name, (empty.attempts order).find name = registry.find name) := by
  intro registry
  have built : registry.Built := Built.empty.attempts descriptors
  refine ⟨built.length_answering_le_one, ?_, ?_, ?_, ?_⟩
  · intro descriptor member
    exact ⟨built.find_of_answersTo member (answersTo_iff.mpr (.inl rfl)),
      built.find_of_answersTo member (answersTo_iff.mpr (.inr rfl))⟩
  · intro descriptor taken
    obtain ⟨existing, member, collides, rejected⟩ := register_of_collides taken
    exact ⟨⟨existing, member, collides, rejected⟩, attempt_of_register_eq_error rejected⟩
  · intro descriptor free
    have added := register_of_free free
    have next : registry.attempt descriptor = ⟨registry.descriptors ++ [descriptor]⟩ := by
      rw [attempt, added]
    exact ⟨added.trans (congrArg Except.ok next.symm), congrArg Registry.descriptors next⟩
  · intro free order perm
    have all {order : List Descriptor}
        (apart : order.Pairwise fun first second => ¬ first.Collides second) :
        (empty.attempts order).descriptors = order := by
      have registered : empty.attempts order = ⟨empty.descriptors ++ order⟩ :=
        attempts_of_pairwise (apart.imp fun free collides => free collides.symm)
      exact congrArg Registry.descriptors registered
    have reordered : (empty.attempts order).descriptors = order :=
      all (perm.symm.pairwise free fun apart collides => apart collides.symm)
    refine ⟨reordered, (Built.empty.attempts order).find_eq_of_mem_iff built fun descriptor => ?_⟩
    rw [reordered, show registry.descriptors = descriptors from all free]
    exact perm.mem_iff

end Registry

/-- A backend without options that cannot be built. -/
def unbuilt (name shortName : String) : Descriptor :=
  (Descriptor.named name fun _ _ => .error (.ofText "not built")).withShortName shortName

namespace Registry

theorem attempts_lookup_kubernetes :
    let attempted := [unbuilt "kubernetes" "k8s", unbuilt "k8s" "", unbuilt "consul" "",
      unbuilt "catalog" "consul"]
    let registry := empty.attempts attempted
    registry.names = ["kubernetes", "consul"] ∧
      registry.find "k8s" = .ok (unbuilt "kubernetes" "k8s") ∧
      registry.attempt (unbuilt "catalog" "consul") = registry ∧
      (registry.attempt (unbuilt "rest" "")).names = ["kubernetes", "consul", "rest"] ∧
      ∀ name, (empty.attempts [unbuilt "consul" "", unbuilt "kubernetes" "k8s"]).find name =
        (empty.attempts [unbuilt "kubernetes" "k8s", unbuilt "consul" ""]).find name := by
  intro attempted registry
  have kept : registry.descriptors = [unbuilt "kubernetes" "k8s", unbuilt "consul" ""] := rfl
  obtain ⟨_, found, rejected, added, _⟩ := attempts_lookup attempted
  obtain ⟨_, _, _, _, reordered⟩ :=
    attempts_lookup [unbuilt "kubernetes" "k8s", unbuilt "consul" ""]
  refine ⟨rfl, (found (unbuilt "kubernetes" "k8s") ?_).2, (rejected _ ⟨unbuilt "consul" "", ?_⟩).2,
    ?_, (reordered ?_ _ (.swap ..)).2⟩
  · exact kept ▸ List.mem_cons_self
  · exact ⟨kept ▸ List.mem_cons_of_mem _ List.mem_cons_self, .inr (.inr (.inl rfl))⟩
  · have free : ∀ existing ∈ registry.descriptors, ¬ (unbuilt "rest" "").Collides existing := by
      rw [kept]
      simp [Descriptor.Collides, unbuilt, Descriptor.named, Descriptor.withShortName]
    rw [names, (added _ free).2, kept]
    rfl
  · simp [Descriptor.Collides, unbuilt, Descriptor.named, Descriptor.withShortName]

end Registry

end FleetSearch.Backend
