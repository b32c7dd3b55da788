import Mathlib.Data.List.Basic
import FleetSearch.Search.Live

/-! A live phase for somebody who does not see the cache. The steps of a write are silent, and every
other event does to the outline of a search what it does to the search. -/

namespace FleetSearch.Search

namespace Progress

/-- Whether the next step is one of a write. -/
def isWriting : Progress → Bool
  | .writing _ (.done _) => false
  | .writing _ _ => true
  | _ => false

/-- The progress of a task whose write is over as soon as it begins. -/
def outline : Progress → Progress
  | .writing items _ => .writing items (.done (.ok ()))
  | progress => progress

theorem writing_of_isWriting {progress : Progress} (writing : progress.isWriting = true) :
    ∃ items access, progress = .writing items access := by
  cases progress with
  | writing items access => exact ⟨items, access, rfl⟩
  | _ => cases writing

@[simp] theorem isOver_outline (progress : Progress) :
    progress.outline.isOver = progress.isOver := by
  cases progress <;> rfl

end Progress

def Task.outline (task : Task) : Task := { task with progress := task.progress.outline }

theorem Task.outline_abandon (task : Task) : task.abandon.outline = task.outline.abandon := by
  unfold abandon outline
  by_cases ended : task.progress.isOver = true <;> simp [ended]

namespace Live

def outline (live : Live) : Live := { live with tasks := live.tasks.map Task.outline }

/-- Whether an event shows nothing to somebody who does not see the cache. -/
def isSilent (live : Live) : Event → Bool
  | .wait _ => true
  | .work place => live.tasks[place]?.any (·.progress.isWriting)
  | _ => false

theorem isSilent_work_iff {live : Live} {place : Nat} : live.isSilent (.work place) = true ↔
    ∃ task, live.tasks[place]? = some task ∧ task.progress.isWriting = true := by
  simp [isSilent, Option.any_eq_true]

@[simp] theorem outline_isStopped (live : Live) : live.outline.isStopped = live.isStopped := rfl

theorem outline_result? (live : Live) : live.outline.result? = live.result? := by
  simp [result?, outline, Function.comp_def, Task.outline]

theorem outline_tasks (live : Live) (place : Nat) :
    live.outline.tasks[place]? = live.tasks[place]?.map Task.outline := by
  simp [outline]

/-- A change of one task that does not depend on a write is made in the outline as well. -/
theorem map_outline_modify (change inOutline : Task → Task)
    (commutes : ∀ task, (change task).outline = inOutline task.outline) (tasks : List Task)
    (place : Nat) :
    (tasks.modify place change).map Task.outline =
      (tasks.map Task.outline).modify place inOutline := by
  refine List.ext_getElem? fun other => ?_
  by_cases same : place = other <;> simp [same, Function.comp_def, commutes]

theorem outline_withProgress (live : Live) (place : Nat) (progress : Progress) :
    (live.withProgress place progress).outline =
      live.outline.withProgress place progress.outline := by
  have tasks := map_outline_modify (fun task => { task with progress })
    (fun task => { task with progress := progress.outline }) (fun _ => rfl) live.tasks place
  exact congrArg (fun tasks => { live with tasks }) tasks

theorem outline_fail (live : Live) (error : SearchError) :
    (live.fail error).outline = live.outline.fail error := by
  simp [fail, outline, Task.outline_abandon]

theorem outline_join (live : Live) (place : Nat) (task : Task) :
    (live.join place task).outline = live.outline.join place task.outline := by
  unfold join
  have flags : task.outline.isJoined = task.isJoined ∧ task.outline.isAbandoned = task.isAbandoned ∧
      live.outline.failure = live.failure ∧ live.outline.isCancelled = live.isCancelled :=
    ⟨rfl, rfl, rfl, rfl⟩
  rw [flags.1, flags.2.1, flags.2.2.1, flags.2.2.2]
  cases noticed : task.isJoined || live.failure.isSome with
  | true => rfl
  | false =>
    cases given : task.isAbandoned with
    | true => exact outline_fail live .abandoned
    | false =>
      simp only [Bool.false_eq_true, ↓reduceIte]
      cases progressed : task.progress with
      | finished =>
        simp only [Task.outline, progressed, Progress.outline]
        have tasks := map_outline_modify (fun task => { task with isJoined := true })
          (fun task => { task with isJoined := true }) (fun _ => rfl) live.tasks place
        exact congrArg (fun tasks => { live with tasks }) tasks
      | failed cause =>
        simpa only [Task.outline, progressed, Progress.outline] using outline_fail ..
      | _ => simp only [Task.outline, progressed, Progress.outline]

theorem outline_begin (live : Live) (place : Nat) (task : Task) {shared other : Shared}
    (calls : other.calls = shared.calls) :
    (live.begin place task shared).1.outline = (live.outline.begin place task.outline other).1 ∧
      (live.begin place task shared).2.calls =
        (live.outline.begin place task.outline other).2.calls := by
  unfold begin
  rw [outline_isStopped]
  cases live.isStopped with
  | true => exact ⟨outline_withProgress .., calls.symm⟩
  | false =>
    simp only [Bool.false_eq_true, ↓reduceIte, outline_withProgress, Shared.callCount, calls]
    exact ⟨rfl, rfl⟩

end Live

namespace Finder

/-- The same searches without a cache. -/
def withoutCache (finder : Finder) : Finder :=
  { finder with isCaching := false, lifetime := ⟨0⟩ }

theorem outline_answered? (finder : Finder) (query : Query) (ending : Backend.Ending) :
    (finder.answered? query ending).map Progress.outline =
      finder.withoutCache.answered? query ending := by
  cases ending <;> rfl

variable {finder : Finder} {live : Live} {event : Event} {shared other : Shared}

private theorem work_of_isWriting (finder : Finder) (live : Live) (shared : Shared) (place : Nat)
    {task : Task} (writing : task.progress.isWriting = true) :
    ∃ items access next store, task.progress = .writing items access ∧
      finder.work place task live shared =
        (live.withProgress place (.writing items next), { shared with store }) := by
  cases progressed : task.progress with
  | writing items access =>
    cases access with
    | done => simp [progressed, Progress.isWriting] at writing
    | _ => exact ⟨items, _, _, _, rfl, by simp only [work, progressed]; rfl⟩
  | _ => simp [progressed, Progress.isWriting] at writing

/-- A silent event leaves the outline and the calls as they are. -/
theorem step_silent (silent : live.isSilent event = true) :
    (finder.step event live shared).1.outline = live.outline ∧
      (finder.step event live shared).2.calls = shared.calls := by
  cases event with
  | wait millis => exact ⟨rfl, rfl⟩
  | work place =>
    obtain ⟨task, found, writing⟩ := Live.isSilent_work_iff.mp silent
    obtain ⟨items, access, next, store, progressed, worked⟩ :=
      work_of_isWriting finder live shared place writing
    simp only [step, found, worked, and_true, Live.outline_withProgress]
    have same : live.outline.tasks.modify place (fun task =>
        { task with progress := (Progress.writing items next).outline }) = live.outline.tasks := by
      refine List.ext_getElem? fun other => ?_
      by_cases here : place = other
      · subst here
        simp [Live.outline_tasks, found, Task.outline, progressed, Progress.outline]
      · simp [here]
    rw [Live.withProgress, same]
  | _ => cases silent

/-- A step of a task that is not one of a write is a step of its outline. -/
private theorem outline_work {place : Nat} {task : Task}
    (visible : task.progress.isWriting = false) (calls : other.calls = shared.calls) :
    (finder.work place task live shared).1.outline =
        (finder.withoutCache.work place task.outline live.outline other).1 ∧
      (finder.work place task live shared).2.calls =
        (finder.withoutCache.work place task.outline live.outline other).2.calls := by
  have given : task.outline.isAbandoned = task.isAbandoned := rfl
  have asked : task.outline.query = task.query := rfl
  have outlined : task.outline.progress = task.progress.outline := rfl
  cases progressed : task.progress with
  | waiting =>
    simp only [work, outlined, given, progressed, Progress.outline]
    cases task.isAbandoned with
    | true => exact ⟨rfl, calls.symm⟩
    | false => exact live.outline_begin place task calls
  | listing course =>
    simp only [work, outlined, given, progressed, Progress.outline, Live.outline_isStopped, asked]
    cases task.isAbandoned with
    | true => exact ⟨rfl, calls.symm⟩
    | false =>
      cases live.isStopped with
      | true => exact ⟨Live.outline_withProgress .., calls.symm⟩
      | false =>
        simp only [Bool.false_eq_true, ↓reduceIte, ← outline_answered?]
        cases finder.answered? task.query course.ending with
        | none => exact ⟨rfl, calls.symm⟩
        | some progress => exact ⟨Live.outline_withProgress .., calls.symm⟩
  | writing items access =>
    cases access with
    | done result =>
      simp only [work, outlined, given, progressed, Progress.outline]
      cases task.isAbandoned with
      | true => exact ⟨rfl, calls.symm⟩
      | false =>
        have finished := live.outline_withProgress place .finished
        exact ⟨congrArg (fun live => { live with results := live.results.add items }) finished,
          calls.symm⟩
    | _ => simp [progressed, Progress.isWriting] at visible
  | finished => simpa only [work, outlined, progressed, Progress.outline, true_and] using calls.symm
  | failed cause =>
    simpa only [work, outlined, progressed, Progress.outline, true_and] using calls.symm

/-- Any other event does to the outline what it does to the search. -/
theorem step_visible (visible : live.isSilent event = false) (calls : other.calls = shared.calls) :
    (finder.step event live shared).1.outline =
        (finder.withoutCache.step event live.outline other).1 ∧
      (finder.step event live shared).2.calls =
        (finder.withoutCache.step event live.outline other).2.calls := by
  cases event with
  | wait millis => cases visible
  | cancel => exact ⟨rfl, calls.symm⟩
  | work place =>
    simp only [step, Live.outline_tasks]
    cases found : live.tasks[place]? with
    | none => exact ⟨rfl, calls.symm⟩
    | some task => exact outline_work (by simpa [Live.isSilent, found] using visible) calls
  | join place =>
    simp only [step, Live.outline_tasks]
    cases live.tasks[place]? with
    | none => exact ⟨rfl, calls.symm⟩
    | some task => exact ⟨live.outline_join place task, calls.symm⟩

end Finder

end FleetSearch.Search
