import FleetSearch.Proofs.Cache.InForce
import FleetSearch.Proofs.Search.Blame

/-! Searches that are refused. If an identifier of a request cannot be prepared, the search fails
with the error of the first such identifier, nobody is asked, and no later read of the cache tells
that there was a search. -/

namespace FleetSearch.Search

open FleetSearch.Cache (Access Exchange)
open FleetSearch.Inventory (Collection)

/-- Why an identifier cannot be prepared. One with the target of an earlier identifier is not
prepared at all, and so nothing can be wrong with it. -/
inductive Finder.Fails (finder : Finder) (earlier : List String) (identifier : String) :
    SearchError → Prop where
  | unknown {error : Backend.RegistryError}
      (aimed : finder.resolver.target finder.registry identifier = .error error) :
      Fails finder earlier identifier (.unknownBackend error)
  | missing {target : Config.Target} {error : Config.ConfigError}
      (aimed : finder.resolver.target finder.registry identifier = .ok target)
      (fresh : ∀ other ∈ earlier, finder.key? other ≠ some (target.descriptor.name, target.part))
      (unresolved : finder.resolver.resolve target.descriptor target.part = .error error) :
      Fails finder earlier identifier (.config error)
  | unbuilt {target : Config.Target} {values : Config.Values} {cause : Backend.Cause}
      (aimed : finder.resolver.target finder.registry identifier = .ok target)
      (fresh : ∀ other ∈ earlier, finder.key? other ≠ some (target.descriptor.name, target.part))
      (resolved : finder.resolver.resolve target.descriptor target.part = .ok values)
      (refused : target.descriptor.factory values finder.client = .error cause) :
      Fails finder earlier identifier (.init identifier cause)

/-- Whether the first of some identifiers that cannot be prepared, after earlier ones, cannot be
for this reason. -/
def Finder.FailsFirst (finder : Finder) (earlier identifiers : List String) (error : SearchError) :
    Prop :=
  ∃ before identifier after, identifiers = before ++ identifier :: after ∧
    (∀ early other late, before = early ++ other :: late →
      ∀ reason, ¬ finder.Fails (earlier ++ early) other reason) ∧
    finder.Fails (earlier ++ before) identifier error

/-- Why a search is refused: it names only blanks, or some identifier cannot be prepared. -/
inductive Finder.Refuses (finder : Finder) (request : Request) : SearchError → Prop where
  | blank (blank : ∀ name ∈ request.backends, Unicode.trim name = "") :
      Refuses finder request .noBackends
  | first {error : SearchError} (fails : finder.FailsFirst [] request.identifiers error) :
      Refuses finder request error

theorem distinctAfter_eq_nil_iff {names : List String} :
    distinctAfter [] names = [] ↔ names = [] := by
  cases names with
  | nil => simp [distinctAfter]
  | cons name rest => simp [distinctAfter]

/-- A request without identifiers names only blanks. -/
theorem Request.identifiers_eq_nil_iff {request : Request} :
    request.identifiers = [] ↔ ∀ name ∈ request.backends, Unicode.trim name = "" := by
  rw [identifiers, distinctAfter_eq_nil_iff, List.filter_eq_nil_iff]
  simp

namespace Finder

variable {finder : Finder} {earlier rest identifiers : List String} {identifier : String}
  {error : SearchError} {seen : List TargetKey} {request : Request}

theorem failsFirst_cons : finder.FailsFirst earlier (identifier :: rest) error ↔
    finder.Fails earlier identifier error ∨
      (∀ reason, ¬ finder.Fails earlier identifier reason) ∧
        finder.FailsFirst (earlier ++ [identifier]) rest error := by
  constructor
  · rintro ⟨before, other, after, split, ready, fails⟩
    cases before with
    | nil =>
      obtain ⟨rfl, rfl⟩ := List.cons.inj split
      exact .inl (by simpa using fails)
    | cons first before =>
      obtain ⟨rfl, rfl⟩ := List.cons.inj split
      refine .inr ⟨by simpa using ready [] _ before rfl, before, other, after, rfl, ?_, ?_⟩
      · intro early next late here
        simpa using ready (identifier :: early) next late (by simp [here])
      · simpa using fails
  · rintro (fails | ⟨ready, before, other, after, rfl, later, fails⟩)
    · exact ⟨[], identifier, rest, rfl, by simp, by simpa using fails⟩
    · refine ⟨identifier :: before, other, after, rfl, ?_, by simpa using fails⟩
      intro early next late here
      cases early with
      | nil =>
        obtain ⟨rfl, _⟩ := List.cons.inj here
        simpa using ready
      | cons first early =>
        obtain ⟨rfl, there⟩ := List.cons.inj here
        simpa using later early next late there

theorem exists_failsFirst {before after : List String}
    (split : identifiers = before ++ identifier :: after)
    (fails : finder.Fails (earlier ++ before) identifier error) :
    ∃ reason, finder.FailsFirst earlier identifiers reason := by
  induction before generalizing earlier identifiers with
  | nil =>
    subst split
    exact ⟨error, failsFirst_cons.mpr (.inl (by simpa using fails))⟩
  | cons first before ih =>
    subst split
    by_cases sooner : ∃ reason, finder.Fails earlier first reason
    · obtain ⟨reason, fails⟩ := sooner
      exact ⟨reason, failsFirst_cons.mpr (.inl fails)⟩
    · have past : finder.Fails ((earlier ++ [first]) ++ before) identifier error := by
        simpa using fails
      obtain ⟨reason, later⟩ := ih rfl past
      exact ⟨reason, failsFirst_cons.mpr (.inr ⟨not_exists.mp sooner, later⟩)⟩

/-- An identifier with a target that none of the earlier ones has cannot be prepared exactly if
nothing can be built for it. -/
theorem fails_iff_of_fresh {target : Config.Target}
    (aimed : finder.resolver.target finder.registry identifier = .ok target)
    (fresh : ∀ other ∈ earlier, finder.key? other ≠ some (target.descriptor.name, target.part)) :
    finder.Fails earlier identifier error ↔
      finder.instantiate identifier target = .error error := by
  constructor
  · intro fails
    cases fails with
    | unknown other => cases aimed.symm.trans other
    | missing other _ unresolved =>
      cases aimed.symm.trans other
      simp [instantiate, unresolved]
    | unbuilt other _ resolved refused =>
      cases aimed.symm.trans other
      simp [instantiate, resolved, refused]
  · intro unbuilt
    unfold instantiate at unbuilt
    split at unbuilt
    · rename_i unresolved
      cases unbuilt
      exact .missing aimed fresh unresolved
    · rename_i resolved
      split at unbuilt
      · rename_i refused
        cases unbuilt
        exact .unbuilt aimed fresh resolved refused
      · cases unbuilt

/-- An identifier with the target of an earlier one cannot fail. -/
theorem not_fails_of_collapsed {target : Config.Target} {other : String}
    (aimed : finder.resolver.target finder.registry identifier = .ok target)
    (member : other ∈ earlier)
    (same : finder.key? other = some (target.descriptor.name, target.part)) :
    ¬ finder.Fails earlier identifier error := by
  intro fails
  cases fails with
  | unknown unaimed => cases aimed.symm.trans unaimed
  | missing there fresh =>
    cases aimed.symm.trans there
    exact fresh other member same
  | unbuilt there fresh =>
    cases aimed.symm.trans there
    exact fresh other member same

/-- The targets that the preparation has seen are those of the identifiers before. -/
theorem refusalFrom_eq_some_iff
    (met : ∀ key, key ∈ seen ↔ ∃ other ∈ earlier, finder.key? other = some key) :
    finder.refusalFrom seen identifiers = some error ↔
      finder.FailsFirst earlier identifiers error := by
  induction identifiers generalizing seen earlier with
  | nil => simp [refusalFrom_nil, FailsFirst]
  | cons identifier rest ih =>
    rw [failsFirst_cons, refusalFrom_cons]
    cases aimed : finder.resolver.target finder.registry identifier with
    | error unknown =>
      have fails : finder.Fails earlier identifier (.unknownBackend unknown) := .unknown aimed
      refine ⟨fun same => .inl (Option.some.inj same ▸ fails), ?_⟩
      rintro (other | ⟨ready, _⟩)
      · cases other with
        | unknown there =>
          cases aimed.symm.trans there
          rfl
        | missing there => cases aimed.symm.trans there
        | unbuilt there => cases aimed.symm.trans there
      · exact absurd fails (ready _)
    | ok target =>
      have named : finder.key? identifier = some (target.descriptor.name, target.part) := by
        simp [key?, aimed, Except.toOption]
      by_cases collapsed : (target.descriptor.name, target.part) ∈ seen
      · obtain ⟨other, member, same⟩ := (met _).mp collapsed
        have ready (reason : SearchError) : ¬ finder.Fails earlier identifier reason :=
          not_fails_of_collapsed aimed member same
        have still : ∀ key, key ∈ seen ↔
            ∃ other ∈ earlier ++ [identifier], finder.key? other = some key := by
          intro key
          rw [met]
          constructor
          · rintro ⟨name, present, found⟩
            exact ⟨name, List.mem_append_left _ present, found⟩
          · rintro ⟨name, present, found⟩
            rcases List.mem_append.mp present with old | new
            · exact ⟨name, old, found⟩
            · cases List.mem_singleton.mp new
              exact ⟨other, member, same.trans (named.symm.trans found)⟩
        simp only [collapsed, ↓reduceIte, ready, false_or, not_false_eq_true, implies_true,
          true_and]
        exact ih still
      · have fresh : ∀ other ∈ earlier,
            finder.key? other ≠ some (target.descriptor.name, target.part) :=
          fun other member same => collapsed ((met _).mpr ⟨other, member, same⟩)
        have next : ∀ key, key ∈ (target.descriptor.name, target.part) :: seen ↔
            ∃ other ∈ earlier ++ [identifier], finder.key? other = some key := by
          intro key
          simp [met, named, or_and_right, exists_or, or_comm, eq_comm]
        simp only [collapsed, ↓reduceIte, fails_iff_of_fresh aimed fresh]
        cases made : finder.instantiate identifier target with
        | error reason => simp
        | ok backend => simpa using ih next

/-- The preparation goes through the identifiers in order and stops at the first that fails. -/
theorem refusal?_eq_some_iff :
    finder.refusal? request = some error ↔ finder.Refuses request error := by
  have none_met : ∀ key, key ∈ ([] : List TargetKey) ↔
      ∃ other ∈ ([] : List String), finder.key? other = some key := by simp
  unfold refusal?
  constructor
  · intro refusal
    split at refusal
    · rename_i blank
      cases refusal
      exact .blank (Request.identifiers_eq_nil_iff.mp blank)
    · exact .first ((refusalFrom_eq_some_iff none_met).mp refusal)
  · rintro (blank | fails)
    · simp [Request.identifiers_eq_nil_iff.mpr blank]
    · split
      · rename_i blank
        obtain ⟨before, identifier, after, split, _⟩ := fails
        simp [blank] at split
      · exact (refusalFrom_eq_some_iff none_met).mpr fails

theorem refusalFrom_eq_none_iff : finder.refusalFrom seen identifiers = none ↔
    (∀ identifier ∈ identifiers, (finder.key? identifier).isSome = true) ∧
      ∀ leader ∈ finder.leaders seen identifiers, (finder.backend? leader.2).isSome = true := by
  induction identifiers generalizing seen with
  | nil => simp [refusalFrom_nil, leaders]
  | cons identifier rest ih =>
    rw [refusalFrom_cons, leaders, List.forall_mem_cons]
    cases aimed : finder.resolver.target finder.registry identifier with
    | error unknown => simp [key?, aimed, Except.toOption]
    | ok target =>
      have named : finder.key? identifier = some (target.descriptor.name, target.part) := by
        simp [key?, aimed, Except.toOption]
      have built :
          finder.backend? identifier = (finder.instantiate identifier target).toOption := by
        simp [backend?, aimed, Except.toOption]
      simp only [named, List.contains_iff_mem, Option.isSome_some, true_and]
      by_cases collapsed : (target.descriptor.name, target.part) ∈ seen
      · simpa only [collapsed, ↓reduceIte] using ih
      · simp only [collapsed, ↓reduceIte, List.forall_mem_cons, built]
        cases finder.instantiate identifier target with
        | error reason => simp [Except.toOption]
        | ok backend => simpa [Except.toOption] using ih

/-- A request is prepared exactly if it names something, every name is known, and for each target
the backend can be built. -/
theorem refusal?_eq_none_iff : finder.refusal? request = none ↔
    request.identifiers ≠ [] ∧
      (∀ identifier ∈ request.identifiers, (finder.key? identifier).isSome = true) ∧
      ∀ leader ∈ finder.leaders [] request.identifiers,
        (finder.backend? leader.2).isSome = true := by
  unfold refusal?
  split
  · rename_i blank
    simp [blank]
  · rename_i named
    rw [refusalFrom_eq_none_iff]
    exact (and_iff_right named).symm

/-- A preparation looks into the cache, and drops only what it has found expired. -/
theorem planFrom_careful (finder : Finder) (request : Request) (seen : List TargetKey)
    (plan : Plan) (identifiers : List String) :
    (finder.planFrom request seen plan identifiers).Careful := by
  induction identifiers generalizing seen plan with
  | nil => exact .done _
  | cons identifier rest ih =>
    unfold planFrom
    split
    · exact .done _
    · rename_i target _
      by_cases collapsed : (target.descriptor.name, target.part) ∈ seen
      · simpa only [collapsed, ↓reduceIte] using ih seen plan
      · simp only [collapsed, ↓reduceIte]
        split
        · exact .done _
        · refine .bind ?_ fun plan => ih _ plan
          unfold planned
          dsimp only
          split
          · refine .bind (.bind (Cache.get_careful _ _) fun _ => .done _) fun found => ?_
            cases found <;> exact .done _
          · exact .done _

theorem plan_careful (finder : Finder) (request : Request) : (finder.plan request).Careful := by
  unfold plan
  split
  · exact .done _
  · exact finder.planFrom_careful request [] {} _

end Finder

namespace Finder.Refuses

variable {finder : Finder} {request : Request} {error : SearchError}

theorem of_leads (refuses : finder.Refuses request error) {log : List Exchange}
    {outcome : Except SearchError Plan} (leads : (finder.plan request).Leads log (.done outcome)) :
    outcome = .error error := by
  have refusal := Finder.refusal?_eq_some_iff.mpr refuses
  rw [Finder.refusal?_of_leads leads] at refusal
  cases outcome with
  | error reason => exact congrArg Except.error (Option.some.inj refusal)
  | ok plan => cases refusal

theorem recounted (refuses : finder.Refuses request error) {earlier calls : List Call}
    {order : List Event} {log : List Exchange} {isCancelled : Bool} {stage : Stage}
    (recounts : Recounts finder request earlier order log isCancelled stage calls) :
    calls = earlier ∧ Exchange.Careful log ∧
      ((∃ access, stage = .preparing access) ∨ stage = .refused error) := by
  cases recounts with
  | preparing led => exact ⟨rfl, finder.plan_careful request _ _ led, .inl ⟨_, rfl⟩⟩
  | refused led =>
    cases refuses.of_leads led
    exact ⟨rfl, finder.plan_careful request _ _ led, .inr rfl⟩
  | live led => cases refuses.of_leads led

/-- Alone with its store, a search leaves what is in force there. -/
theorem stood (refuses : finder.Refuses request error) {shared later : Shared}
    {log : List Exchange} {stage : Stage} (stands : Stands finder request shared log later stage) :
    later.calls = shared.calls ∧ later.store.isOpen = shared.store.isOpen ∧
      ∀ place moment, later.now ≤ moment →
        later.store.inForce? moment place = shared.store.inForce? moment place := by
  have left {access : Access (Except SearchError Plan)}
      (led : (finder.plan request).Leads log access)
      (performed : Exchange.Performed shared.now shared.store log later.now)
      (stored : later.store = Exchange.after shared.store log) :
      later.store.isOpen = shared.store.isOpen ∧ ∀ place moment, later.now ≤ moment →
        later.store.inForce? moment place = shared.store.inForce? moment place := by
    rw [stored]
    exact ⟨Exchange.isOpen_after shared.store log, fun place moment wait =>
      (finder.plan_careful request _ _ led).inForce?_after performed wait place⟩
  cases stands with
  | preparing led performed stored calls => exact ⟨calls, left led performed stored⟩
  | refused led performed stored calls => exact ⟨calls, left led performed stored⟩
  | live _ led => cases refuses.of_leads led

/-- A preparation that was refused is over, and so is the search. -/
theorem result? (refuses : finder.Refuses request error) {earlier calls : List Call}
    {order : List Event} {log : List Exchange} {run : Run}
    (recounts : Recounts finder request earlier order log run.isCancelled run.stage calls) :
    (∀ result, run.result? = some result → result = .error error) ∧
      (run.IsSettled → run.result? = some (.error error)) := by
  unfold Run.result?
  rcases (refuses.recounted recounts).2.2 with ⟨access, staged⟩ | staged
  · refine ⟨by simp [staged], fun settled => ?_⟩
    exact absurd staged (settled access)
  · simp [staged, eq_comm]

end Finder.Refuses

/-- A search with an identifier that cannot be prepared, or with none at all, is refused. It comes
to its end with the error of the first such identifier, in whatever order things happen and whatever
the cache is. It asks nobody, drops nothing from the cache but what it has just found expired, and
leaves every later read as it would be without the search. -/
theorem Finder.error_of_first (finder : Finder) (request : Request) :
    (∀ before identifier after reason, request.identifiers = before ++ identifier :: after →
      finder.Fails before identifier reason → ∃ error, finder.Refuses request error) ∧
    ∀ error, finder.Refuses request error →
      (∀ earlier situation count order log run calls,
        Proceeds finder request earlier situation count order log run calls →
          calls = earlier ∧ Exchange.Careful log ∧
          (∀ result, run.result? = some result → result = .error error) ∧
          (run.IsSettled → run.result? = some (.error error))) ∧
      (∀ earlier situation schedule, Fair schedule → ∃ count,
        (finder.along request earlier situation schedule count).1.result? =
          some (.error error)) ∧
      (∀ shared cancelAt, (finder.find request cancelAt shared).1 = some (.error error)) ∧
      ∀ shared log run later, Reaches finder request shared log run later →
        later.calls = shared.calls ∧
        ∀ (α : Type) (decode : Json.Decoder α) (place : Cache.Place) (moment : Nat),
          later.now ≤ moment →
            ((Cache.get decode place).run moment later.store).1 =
              ((Cache.get decode place).run moment shared.store).1 := by
  refine ⟨?_, fun error refuses => ⟨?_, ?_, ?_, ?_⟩⟩
  · intro before identifier after reason split fails
    have fails : finder.Fails ([] ++ before) identifier reason := fails
    obtain ⟨error, first⟩ := Finder.exists_failsFirst split fails
    exact ⟨error, .first first⟩
  · intro earlier situation count order log run calls proceeds
    obtain ⟨uncalled, careful, _⟩ := refuses.recounted proceeds.recounts.2
    exact ⟨uncalled, careful, refuses.result? proceeds.recounts.2⟩
  · intro earlier situation schedule fair
    obtain ⟨count, _, settled⟩ := @along_settles finder request earlier situation schedule fair 0
    obtain ⟨order, log, proceeds⟩ :=
      finder.along_proceeds request earlier situation schedule count
    exact ⟨count, (refuses.result? proceeds.recounts.2).2 settled⟩
  · intro shared cancelAt
    obtain ⟨log, leads, _⟩ := Access.leads_run shared.now shared.store (finder.plan request)
    have failed := refuses.of_leads leads
    unfold Finder.find
    cases planned : (finder.plan request).run shared.now shared.store with
    | mk outcome store =>
      rw [planned] at failed
      cases failed
      rfl
  · intro shared log run later reached
    obtain ⟨uncalled, opened, inForce⟩ := refuses.stood reached.stands.2
    exact ⟨uncalled, fun α decode place moment wait =>
      Cache.run_get_of_inForce opened (inForce place moment wait)⟩

/-- A request in which a target that the cache has, one that it has no longer and a second name come
before a name that nobody has. -/
def strayRequest : Request :=
  { backends := ["west", " h", "hosts", "nowhere", "idle"], pattern := "web" }

/-- A cache with a row in force and one that has expired. -/
def aged : Shared :=
  { now := 9
    store := { rows := [(⟨"west", "web"⟩, ⟨"[]", some 20⟩), (⟨"h", "web"⟩, ⟨"[]", some 5⟩)] } }

/-- The name is named, nobody is asked, and the expired row is dropped without anybody missing
it. -/
theorem error_of_first_stray :
    hostsFinder.Refuses strayRequest (.unknownBackend (.notFound "nowhere")) ∧
    (hostsFinder.find strayRequest none aged).1 =
      some (.error (.unknownBackend (.notFound "nowhere"))) ∧
    ∃ log run later, Reaches hostsFinder strayRequest aged log run later ∧
      run.result? = some (.error (.unknownBackend (.notFound "nowhere"))) ∧
      later.store.rows = [(⟨"west", "web"⟩, ⟨"[]", some 20⟩)] ∧ later.calls = [] ∧
      ∀ (place : Cache.Place) (moment : Nat), 9 ≤ moment →
        ((Cache.get Collection.decode place).run moment later.store).1 =
          ((Cache.get Collection.decode place).run moment aged.store).1 := by
  have refuses : hostsFinder.Refuses strayRequest (.unknownBackend (.notFound "nowhere")) :=
    Finder.refusal?_eq_some_iff.mp rfl
  obtain ⟨_, _, found, left⟩ := (hostsFinder.error_of_first strayRequest).2 _ refuses
  have looked : Reaches hostsFinder strayRequest aged _ _ _ :=
    (((Reaches.start.step .prepare).step .prepare).step .prepare).step .prepare
  have ended := (looked.step .prepare).step .prepare
  obtain ⟨uncalled, same⟩ := left _ _ _ _ ended
  exact ⟨refuses, found aged none, _, _, _, ended, rfl, rfl, uncalled, same _ Collection.decode⟩

end FleetSearch.Search
