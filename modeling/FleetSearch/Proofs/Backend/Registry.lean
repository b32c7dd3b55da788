import FleetSearch.Backend.Registry

/-! What a registry that is built by registrations is like: a name is a name or a short name of at
most one of its backends, and so a look-up does not depend on their order. -/

namespace FleetSearch.Backend

/-- Whether two backends have none of their names in common. -/
def Descriptor.Apart (descriptor other : Descriptor) : Prop :=
  ∀ name, descriptor.answersTo name = true → other.answersTo name = false

namespace Registry

/-- A registry to which backends have been added, from the empty one on. -/
inductive Built : Registry → Prop where
  | empty : Built empty
  | register {registry next : Registry} {descriptor : Descriptor} (before : Built registry)
      (registered : registry.register descriptor = .ok next) : Built next

variable {registry next : Registry} {descriptor other : Descriptor} {name : String}

theorem answersTo_iff :
    descriptor.answersTo name = true ↔ descriptor.name = name ∨ descriptor.shortName = name := by
  simp [Descriptor.answersTo]

/-- A registration adds a backend at the end, which has none of the names of the others. -/
theorem of_register (registered : registry.register descriptor = .ok next) :
    next.descriptors = registry.descriptors ++ [descriptor] ∧
      ∀ other ∈ registry.descriptors, other.Apart descriptor := by
  unfold register at registered
  split at registered
  · cases registered
  · rename_i fresh
    cases registered
    refine ⟨rfl, fun other member name answers => ?_⟩
    have free := List.find?_eq_none.mp fresh other member
    rw [Bool.or_eq_true, not_or] at free
    rw [← Bool.not_eq_true, answersTo_iff]
    rintro (rfl | rfl)
    · exact free.1 answers
    · exact free.2 answers

private theorem Built.of_foldlM {descriptors : List Descriptor} (built : registry.Built)
    (added : descriptors.foldlM Registry.register registry = .ok next) : next.Built := by
  induction descriptors generalizing registry with
  | nil =>
    cases added
    exact built
  | cons descriptor rest ih =>
    rw [List.foldlM_cons] at added
    cases registered : registry.register descriptor with
    | error error => simp [registered, bind, Except.bind] at added
    | ok between =>
      rw [registered] at added
      exact ih (built.register registered) added

theorem Built.of_ofDescriptors {descriptors : List Descriptor}
    (added : ofDescriptors descriptors = .ok registry) : registry.Built :=
  .of_foldlM .empty added

/-- No two backends of a registry that was built have a name in common. -/
theorem Built.apart (built : registry.Built) :
    registry.descriptors.Pairwise Descriptor.Apart := by
  induction built with
  | empty => exact List.Pairwise.nil
  | register before registered ih =>
    obtain ⟨added, fresh⟩ := of_register registered
    rw [added, List.pairwise_append]
    refine ⟨ih, List.pairwise_singleton _ _, ?_⟩
    intro other member last present
    rw [List.mem_singleton.mp present]
    exact fresh other member

theorem mem_of_find (found : registry.find name = .ok descriptor) :
    descriptor ∈ registry.descriptors ∧ descriptor.answersTo name = true := by
  unfold find at found
  split at found
  · rename_i here
    cases found
    have answers := List.find?_some here
    exact ⟨List.mem_of_find?_eq_some here, answers⟩
  · cases found

theorem Built.find_of_answersTo (built : registry.Built)
    (member : descriptor ∈ registry.descriptors) (answers : descriptor.answersTo name = true) :
    registry.find name = .ok descriptor := by
  obtain ⟨before, after, split⟩ := List.append_of_mem member
  have apart := built.apart
  rw [split, List.pairwise_append] at apart
  have found : registry.descriptors.find? (·.answersTo name) = some descriptor := by
    rw [List.find?_eq_some_iff_append]
    refine ⟨answers, before, after, split, fun other early => ?_⟩
    -- One before it with this name would have a name in common with it.
    cases taken : other.answersTo name with
    | false => rfl
    | true =>
      have free := apart.2.2 other early descriptor List.mem_cons_self name taken
      rw [answers] at free
      cases free
  rw [find, found]

end Registry

end FleetSearch.Backend
