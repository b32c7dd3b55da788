import FleetSearch.Proofs.Config.Confinement
import FleetSearch.Proofs.Search.Completion
import FleetSearch.Proofs.Search.Refusal

/-! Which identifier the error of a search names. It is the one that could not be prepared or whose
query failed, but for one case: where the type of a section is no name of a backend, the error names
the type. -/

namespace FleetSearch

namespace Config.Resolver

open FleetSearch.Backend (Registry RegistryError)

/-- An identifier without a target is reported by what was looked up for it: the type of its
section, and itself only where no section with a type has its name. -/
theorem target_eq_error {resolver : Resolver} {registry : Registry} {identifier : String}
    {error : RegistryError} (unaimed : resolver.target registry identifier = .error error) :
    error = .notFound ((resolver.settings.type? identifier).getD identifier) := by
  have missing {α : Type} {name : String} {make : Backend.Descriptor → α}
      (unfound : (registry.find name).map make = .error error) : error = .notFound name := by
    rcases registry.find_eq_ok_or_notFound name with ⟨descriptor, found⟩ | absent
    · rw [found] at unfound
      cases unfound
    · rw [absent] at unfound
      cases unfound
      rfl
  rw [target_eq] at unaimed
  cases typed : resolver.settings.type? identifier with
  | some kind =>
    rw [typed] at unaimed
    exact missing unaimed
  | none =>
    rw [typed] at unaimed
    exact missing unaimed

end Config.Resolver

namespace Search

open FleetSearch.Cache (Exchange)

/-- Whether an identifier of a request is the first one that cannot be prepared, and why. -/
def Finder.FailsAt (finder : Finder) (request : Request) (identifier : String)
    (error : SearchError) : Prop :=
  ∃ before after, request.identifiers = before ++ identifier :: after ∧
    (∀ early other late, before = early ++ other :: late →
      ∀ reason, ¬ finder.Fails early other reason) ∧
    finder.Fails before identifier error

/-- Whether a search has failed with an error because of an identifier: it could not be prepared,
or notice was taken of its query, which had been asked and had failed of itself. -/
inductive FailedFor (finder : Finder) (request : Request) (earlier : List Call)
    (order : List Event) (calls : List Call) : Stage → String → SearchError → Prop where
  | prepared {identifier : String} {error : SearchError}
      (fails : finder.FailsAt request identifier error) :
      FailedFor finder request earlier order calls (.refused error) identifier error
  | queried {live : Live} {made : List Call} {identifier : String} {cause : Backend.Cause}
      (failed : live.failure = some (.query identifier cause)) (called : calls = made ++ earlier)
      (blames : Blames earlier made request.pattern order live (.query identifier cause)) :
      FailedFor finder request earlier order calls (.live live) identifier
        (.query identifier cause)

namespace FailedFor

variable {finder : Finder} {request : Request} {earlier calls : List Call} {order : List Event}
  {stage : Stage} {identifier : String} {error : SearchError}

theorem failsAt_or_live
    (failed : FailedFor finder request earlier order calls stage identifier error) :
    finder.FailsAt request identifier error ∨ ∃ live, stage = .live live := by
  cases failed with
  | prepared fails => exact .inl fails
  | queried => exact .inr ⟨_, rfl⟩

theorem failsAt {unknown : Backend.RegistryError}
    (failed : FailedFor finder request earlier order calls stage identifier
      (.unknownBackend unknown)) :
    finder.FailsAt request identifier (.unknownBackend unknown) := by
  cases failed with
  | prepared fails => exact fails

end FailedFor

section FailsAt

variable {finder : Finder} {request : Request} {earlier : List String}
  {identifier other name : String} {error reason : SearchError}

theorem Finder.failsFirst_iff_failsAt : finder.FailsFirst [] request.identifiers error ↔
    ∃ identifier, finder.FailsAt request identifier error := by
  constructor
  · rintro ⟨before, identifier, after, split, ready, fails⟩
    exact ⟨identifier, before, after, split, ready, fails⟩
  · rintro ⟨identifier, before, after, split, ready, fails⟩
    exact ⟨before, identifier, after, split, ready, fails⟩

theorem Finder.FailsAt.mem (fails : finder.FailsAt request identifier error) :
    identifier ∈ request.identifiers := by
  obtain ⟨before, after, split, _⟩ := fails
  simp [split]

theorem Finder.FailsAt.unique (first : finder.FailsAt request identifier error)
    (second : finder.FailsAt request other reason) : identifier = other := by
  obtain ⟨before, after, split, ready, fails⟩ := first
  obtain ⟨past, rest, again, settled, breaks⟩ := second
  have same : before ++ identifier :: after = past ++ other :: rest := split.symm.trans again
  rcases List.append_eq_append_iff.mp same with ⟨between, longer, tail⟩ | ⟨between, longer, tail⟩
  · cases between with
    | nil => exact (List.cons.inj tail).1
    | cons next between =>
      obtain ⟨rfl, _⟩ := List.cons.inj tail
      exact absurd fails (settled _ _ _ longer _)
  · cases between with
    | nil => exact (List.cons.inj tail).1.symm
    | cons next between =>
      obtain ⟨rfl, _⟩ := List.cons.inj tail
      exact absurd breaks (ready _ _ _ longer _)

/-- What the error of an identifier that cannot be prepared names. -/
theorem Finder.Fails.blamed (fails : finder.Fails earlier identifier error)
    (blamed : error.blamed? = some name) :
    name = identifier ∨ finder.resolver.settings.type? identifier = some name ∧
      error = .unknownBackend (.notFound name) := by
  cases fails with
  | unknown unaimed =>
    cases Config.Resolver.target_eq_error unaimed
    cases blamed
    cases finder.resolver.settings.type? identifier with
    | none => exact .inl rfl
    | some kind => exact .inr ⟨rfl, rfl⟩
  | missing => cases blamed
  | unbuilt =>
    cases blamed
    exact .inl rfl

end FailsAt

/-- Whether the identifier at which the preparation of a request fails is a section whose type is no
name of a backend, and another name than its own. -/
def Finder.Misnames (finder : Finder) (request : Request) (name : String) : Prop :=
  ∃ identifier, finder.FailsAt request identifier (.unknownBackend (.notFound name)) ∧
    finder.resolver.settings.type? identifier = some name ∧ identifier ≠ name

theorem Live.failure_of_result? {live : Live} {error : SearchError}
    (failed : live.result? = some (.error error)) : live.failure = some error := by
  unfold result? at failed
  cases decided : live.failure with
  | some other =>
    rw [decided] at failed
    cases failed
    rfl
  | none =>
    rw [decided] at failed
    dsimp only at failed
    split at failed <;> cases failed

namespace Proceeds

variable {finder : Finder} {request : Request} {earlier calls : List Call}
  {situation : Situation} {count : Nat} {order : List Event} {log : List Exchange} {run : Run}
  {identifier name : String} {error : SearchError}

theorem failsAt (proceeds : Proceeds finder request earlier situation count order log run calls)
    (staged : run.stage = .refused error) (blamed : error.blamed? = some name) :
    ∃ identifier, finder.FailsAt request identifier error := by
  have recounts := proceeds.recounts.2
  rw [staged] at recounts
  cases recounts with
  | refused led =>
    have refuses := Finder.refusal?_eq_some_iff.mp (Finder.refusal?_of_leads led)
    cases refuses with
    | blank => cases blamed
    | first fails => exact Finder.failsFirst_iff_failsAt.mp fails

theorem not_live (proceeds : Proceeds finder request earlier situation count order log run calls)
    (fails : finder.FailsAt request identifier error) (live : Live) : run.stage ≠ .live live := by
  have refuses : finder.Refuses request error :=
    .first (Finder.failsFirst_iff_failsAt.mpr ⟨identifier, fails⟩)
  intro staged
  rcases (refuses.recounted proceeds.recounts.2).2.2 with ⟨access, preparing⟩ | refused
  · rw [staged] at preparing
    cases preparing
  · rw [staged] at refused
    cases refused

/-- Where a search has failed with an error that names somebody, some identifier of the request is
the reason, and the error names this identifier or the type of its section. -/
theorem exists_failedFor
    (proceeds : Proceeds finder request earlier situation count order log run calls)
    (failed : run.result? = some (.error error)) (blamed : error.blamed? = some name) :
    ∃ identifier ∈ request.identifiers,
      FailedFor finder request earlier order calls run.stage identifier error ∧
      (name = identifier ∨ finder.resolver.settings.type? identifier = some name ∧
        error = .unknownBackend (.notFound name)) := by
  cases staged : run.stage with
  | preparing access => simp [Run.result?, staged] at failed
  | refused reason =>
    have same : reason = error := by simpa [Run.result?, staged] using failed
    subst same
    obtain ⟨identifier, fails⟩ := proceeds.failsAt staged blamed
    obtain ⟨before, after, _, _, why⟩ := id fails
    exact ⟨identifier, fails.mem, .prepared fails, why.blamed blamed⟩
  | live live =>
    have ended : live.failure = some error :=
      Live.failure_of_result? (by simpa [Run.result?, staged] using failed)
    obtain ⟨made, called, blames⟩ := proceeds.blames staged ended
    obtain ⟨_, place, _, task, cause, _, found, _, named⟩ := id blames
    rcases named with ⟨_, rfl⟩ | ⟨_, rfl, _⟩
    · cases blamed
    · cases blamed
      have asked := proceeds.of_mem_tasks staged (List.mem_of_getElem? found)
      exact ⟨_, asked.1, .queried ended called blames, .inl rfl⟩

/-- In whatever order things happen, where a search fails with an error that names somebody, an
identifier of the request is the reason: it could not be resolved or built, or its query failed. The
error names this identifier, unless the type of its section is no name of a backend; then it names
the type. -/
theorem failedFor_iff
    (proceeds : Proceeds finder request earlier situation count order log run calls)
    (failed : run.result? = some (.error error)) (blamed : error.blamed? = some name) :
    (∃ identifier ∈ request.identifiers,
      FailedFor finder request earlier order calls run.stage identifier error ∧
      (name = identifier ∨ finder.resolver.settings.type? identifier = some name)) ∧
    ((name ∈ request.identifiers ∧
        FailedFor finder request earlier order calls run.stage name error) ↔
      ¬ finder.Misnames request name) := by
  obtain ⟨identifier, member, reason, named⟩ := proceeds.exists_failedFor failed blamed
  refine ⟨⟨identifier, member, reason, named.imp_right And.left⟩, ?_, ?_⟩
  · rintro ⟨_, own⟩ ⟨other, fails, _, different⟩
    rcases own.failsAt_or_live with first | ⟨live, staged⟩
    · exact different (fails.unique first)
    · exact proceeds.not_live fails live staged
  · intro rightly
    rcases named with rfl | ⟨typed, rfl⟩
    · exact ⟨member, reason⟩
    · have own : identifier = name := by
        refine Classical.byContradiction fun different => rightly ?_
        exact ⟨identifier, reason.failsAt, typed, different⟩
      subst own
      exact ⟨member, reason⟩

end Proceeds

/-- Searches in which the section `west` is of a type that nobody has. -/
def lostFinder : Finder :=
  { hostsFinder with
    resolver := ⟨{ backends := [("west", { kind := some "nowhere" })] }, fun _ => none⟩ }

def lostRequest : Request :=
  { backends := ["west"], pattern := "web" }

/-- The identifier is `west`, and the error names `nowhere`. -/
theorem failedFor_lost : ¬ ∀ (finder : Finder) (request : Request) (earlier : List Call)
    (situation : Situation) (count : Nat) (order : List Event) (log : List Exchange) (run : Run)
    (calls : List Call) (name : String) (error : SearchError),
    Proceeds finder request earlier situation count order log run calls →
      run.result? = some (.error error) → error.blamed? = some name →
      name ∈ request.identifiers ∧
        FailedFor finder request earlier order calls run.stage name error := by
  intro claim
  have refused : Proceeds lostFinder lostRequest [] ⟨fun _ => 0, fun _ => {}⟩ _ _ _ _ _ :=
    Proceeds.start.step .prepare
  obtain ⟨member, _⟩ := claim _ _ _ _ _ _ _ _ _ "nowhere" _ refused rfl rfl
  exact absurd member (by decide +kernel)

/-- The backend whose query failed is named. -/
theorem failedFor_brittle : ∃ count log run calls,
    Proceeds brittleFinder brittleRequest [] ⟨fun _ => 0, fun _ => {}⟩ count
      [.work 0, .work 1, .work 1, .join 1] log run calls ∧
    run.result? = some (.error (.query "brittle" (.ofText "boom"))) ∧
    "brittle" ∈ brittleRequest.identifiers ∧
    FailedFor brittleFinder brittleRequest [] [.work 0, .work 1, .work 1, .join 1] calls run.stage
      "brittle" (.query "brittle" (.ofText "boom")) := by
  have prepared : Proceeds brittleFinder brittleRequest [] ⟨fun _ => 0, fun _ => {}⟩ _ _ _ _ _ :=
    ((Proceeds.start.step .prepare).step .prepare).step .prepare
  have asked := (prepared.step (.happen (.work 0))).step (.happen (.work 1))
  have failed := (asked.step (.happen (.work 1))).step (.happen (.join 1))
  have rightly : ¬ brittleFinder.Misnames brittleRequest "brittle" :=
    fun ⟨_, fails, _⟩ => failed.not_live fails _ rfl
  exact ⟨_, _, _, _, failed, rfl, (failed.failedFor_iff rfl rfl).2.mpr rightly⟩

end Search

end FleetSearch
