import Mathlib.Data.List.Induction
import Mathlib.Data.Nat.Find
import Mathlib.Data.Nat.Pairing
import FleetSearch.Proofs.Search.AnyCache

/-! Who is to blame when a search fails: the caller, if the interruption came before the failure was
noticed, and otherwise the backend whose own query failed, and never one that was told to stop. -/

namespace FleetSearch.Search

open FleetSearch.Backend (Cause Course)
open FleetSearch.Cache (Access CacheError Exchange)
open FleetSearch.Inventory (Collection)

/-- A query was asked, and it failed or broke down of itself. -/
def Broke (earlier calls : List Call) (pattern : String) (query : Query) (cause : Cause) : Prop :=
  ∃ course, Asked earlier calls pattern query course ∧
    (course.ending = .fails cause ∨
      ∃ words, course.ending = .panics words ∧ cause = breakdown words)

/-- What is true of a query while the search goes on. -/
def Truthful (earlier calls : List Call) (pattern : String) (isCancelled : Bool) (query : Query) :
    Progress → Prop
  | .listing course => Asked earlier calls pattern query course
  | .failed cause => isCancelled = true ∨ Broke earlier calls pattern query cause
  | _ => True

/-- A search that goes on after some events. -/
structure Undecided (earlier calls : List Call) (pattern : String) (order : List Event)
    (live : Live) : Prop where
  asking : live.pattern = pattern
  undecided : live.failure = none
  interrupted : live.isCancelled = true ↔ .cancel ∈ order
  kept : ∀ task ∈ live.tasks, task.isAbandoned = false
  truthful : ∀ task ∈ live.tasks,
    Truthful earlier calls pattern live.isCancelled task.query task.progress

/-- A search failed with an error because notice was taken of a task that had failed: before it, the
caller had interrupted the search, or else the query of the task failed of itself. -/
def Blames (earlier calls : List Call) (pattern : String) (order : List Event) (live : Live)
    (error : SearchError) : Prop :=
  ∃ before place after task cause, order = before ++ .join place :: after ∧
    live.tasks[place]? = some task ∧ task.progress = .failed cause ∧
    ((.cancel ∈ before ∧ error = .cancelled) ∨
      (.cancel ∉ before ∧ error = .query task.query.identifier cause ∧
        Broke earlier calls pattern task.query cause))

theorem Broke.mono {earlier calls : List Call} {pattern : String} {query : Query} {cause : Cause}
    (broke : Broke earlier calls pattern query cause) (more : List Call) :
    Broke earlier (more ++ calls) pattern query cause := by
  obtain ⟨course, asked, ended⟩ := broke
  exact ⟨course, asked.mono more, ended⟩

theorem Truthful.mono {earlier calls : List Call} {pattern : String} {isCancelled : Bool}
    {query : Query} {progress : Progress}
    (truthful : Truthful earlier calls pattern isCancelled query progress) (more : List Call) :
    Truthful earlier (more ++ calls) pattern isCancelled query progress := by
  cases progress with
  | listing course => exact Asked.mono truthful more
  | failed cause => exact truthful.imp_right (·.mono more)
  | _ => trivial

theorem Live.forall_modify {live : Live} {place : Nat} {task : Task} {change : Task → Task}
    {Holds : Task → Prop} (found : live.tasks[place]? = some task)
    (every : ∀ other ∈ live.tasks, Holds other) (changed : Holds (change task)) :
    ∀ other ∈ live.tasks.modify place change, Holds other := by
  obtain ⟨before, after, split, modified⟩ := Live.split_at found
  intro other member
  rw [modified, List.mem_append, List.mem_cons] at member
  rcases member with early | rfl | late
  · exact every other (by simp [split, early])
  · exact changed
  · exact every other (by simp [split, late])

/-- How a task gets further, and the calls then. -/
inductive Worked (finder : Finder) (live : Live) (shared : Shared) (task : Task) :
    Progress → List Call → Prop where
  | ask (waiting : task.progress = .waiting) (goesOn : live.isStopped = false) :
      Worked finder live shared task
        (.listing (task.query.backend.list live.pattern
          (shared.callCount task.query.backend.name)))
        (task.query.call live.pattern :: shared.calls)
  | stop (unanswered : task.progress = .waiting ∨ ∃ course, task.progress = .listing course)
      (stopped : live.isStopped = true) :
      Worked finder live shared task (.failed interruption) shared.calls
  | answer {course : Course} {progress : Progress} (listing : task.progress = .listing course)
      (goesOn : live.isStopped = false)
      (answered : finder.answered? task.query course.ending = some progress) :
      Worked finder live shared task progress shared.calls
  | write {items : Collection} {access next : Access (Except CacheError Unit)}
      (writing : task.progress = .writing items access) :
      Worked finder live shared task (.writing items next) shared.calls
  | keep {items : Collection} {access : Access (Except CacheError Unit)}
      (writing : task.progress = .writing items access) :
      Worked finder live shared task .finished shared.calls

/-- What can come of an event, and the calls then. -/
inductive Stepped (finder : Finder) (live : Live) (shared : Shared) :
    Event → Live → List Call → Prop where
  | pass {event : Event} (plain : event ≠ .cancel) :
      Stepped finder live shared event live shared.calls
  | cancel : Stepped finder live shared .cancel { live with isCancelled := true } shared.calls
  /-- Notice is taken of a task that has finished. -/
  | note {place : Nat} {task : Task} (found : live.tasks[place]? = some task)
      (finished : task.progress = .finished) (goesOn : live.failure = none) :
      Stepped finder live shared (.join place)
        { live with tasks := live.tasks.modify place fun task => { task with isJoined := true } }
        shared.calls
  /-- Notice is taken of a task that was given up. -/
  | lose {place : Nat} {task : Task} (found : live.tasks[place]? = some task)
      (given : task.isAbandoned = true) (goesOn : live.failure = none) :
      Stepped finder live shared (.join place) (live.fail .abandoned) shared.calls
  /-- Notice is taken of a task that has failed. -/
  | fail {place : Nat} {task : Task} {cause : Cause} (found : live.tasks[place]? = some task)
      (failed : task.progress = .failed cause) (goesOn : live.failure = none) :
      Stepped finder live shared (.join place)
        (live.fail (if live.isCancelled then .cancelled else .query task.query.identifier cause))
        shared.calls
  | work {place : Nat} {task : Task} {progress : Progress} {results : Inventory.Collector}
      {calls : List Call} (found : live.tasks[place]? = some task)
      (worked : Worked finder live shared task progress calls) :
      Stepped finder live shared (.work place)
        { live.withProgress place progress with results } calls

section Steps

variable {finder : Finder} {earlier calls : List Call} {pattern : String} {order : List Event}
  {live next : Live} {shared : Shared} {error : SearchError} {event : Event} {asked : List Call}

/-- A step of a task changes nothing but its progress and the results. -/
theorem Finder.work_cases (finder : Finder) (place : Nat) (task : Task) (live : Live)
    (shared : Shared) :
    ((finder.work place task live shared).1 = live ∧
      (finder.work place task live shared).2.calls = shared.calls) ∨
    ∃ progress results,
      (finder.work place task live shared).1 = { live.withProgress place progress with results } ∧
      Worked finder live shared task progress (finder.work place task live shared).2.calls := by
  unfold work
  cases progressed : task.progress with
  | waiting =>
    cases task.isAbandoned with
    | true => exact .inl ⟨rfl, rfl⟩
    | false =>
      simp only [Bool.false_eq_true, ↓reduceIte, Live.begin]
      cases stopped : live.isStopped with
      | true => exact .inr ⟨_, live.results, rfl, .stop (.inl progressed) stopped⟩
      | false => exact .inr ⟨_, live.results, rfl, .ask progressed stopped⟩
  | listing course =>
    cases task.isAbandoned with
    | true => exact .inl ⟨rfl, rfl⟩
    | false =>
      simp only [Bool.false_eq_true, ↓reduceIte]
      cases stopped : live.isStopped with
      | true => exact .inr ⟨_, live.results, rfl, .stop (.inr ⟨course, progressed⟩) stopped⟩
      | false =>
        simp only [Bool.false_eq_true, ↓reduceIte]
        cases answered : finder.answered? task.query course.ending with
        | none => exact .inl ⟨rfl, rfl⟩
        | some progress =>
          exact .inr ⟨progress, live.results, rfl, .answer progressed stopped answered⟩
  | writing items access =>
    cases access with
    | done result =>
      cases task.isAbandoned with
      | true => exact .inl ⟨rfl, rfl⟩
      | false => exact .inr ⟨.finished, live.results.add items, rfl, .keep progressed⟩
    | _ => exact .inr ⟨_, live.results, rfl, .write progressed⟩
  | finished => exact .inl ⟨rfl, rfl⟩
  | failed cause => exact .inl ⟨rfl, rfl⟩

theorem Finder.step_cases (finder : Finder) (event : Event) (live : Live) (shared : Shared) :
    Stepped finder live shared event (finder.step event live shared).1
      (finder.step event live shared).2.calls := by
  cases event with
  | wait millis => exact .pass (by simp)
  | cancel => exact .cancel
  | join place =>
    simp only [step]
    cases found : live.tasks[place]? with
    | none => exact .pass (by simp)
    | some task =>
      simp only [Live.join]
      split
      · exact .pass (by simp)
      · rename_i ready
        have goesOn : live.failure = none := by simp_all
        split
        · rename_i given
          exact .lose found given goesOn
        · split
          · rename_i finished
            exact .note found finished goesOn
          · rename_i failed
            exact .fail found failed goesOn
          · exact .pass (by simp)
  | work place =>
    simp only [step]
    cases found : live.tasks[place]? with
    | none => exact .pass (by simp)
    | some task =>
      simp only
      rcases finder.work_cases place task live shared with ⟨same, calls⟩ |
        ⟨progress, results, changed, worked⟩
      · rw [same, calls]
        exact .pass (by simp)
      · rw [changed]
        exact .work found worked

theorem Stepped.stays {place : Nat} {task : Task} {cause : Cause}
    (stepped : Stepped finder live shared event next asked)
    (found : live.tasks[place]? = some task) (failed : task.progress = .failed cause) :
    next.tasks[place]? = some task := by
  have kept : task.abandon = task := by simp [Task.abandon, failed, Progress.isOver]
  have given (error : SearchError) : (live.fail error).tasks[place]? = some task := by
    simp [Live.fail, found, kept]
  cases stepped with
  | pass => exact found
  | cancel => exact found
  | lose => exact given _
  | fail => exact given _
  | @note other _ there finished =>
    have apart : other ≠ place := by
      rintro rfl
      cases there.symm.trans found
      simp [finished] at failed
    simpa [apart] using found
  | @work other _ _ _ _ there worked =>
    have apart : other ≠ place := by
      rintro rfl
      cases there.symm.trans found
      cases worked <;> simp_all
    simpa [Live.withProgress, apart] using found

theorem Stepped.length_eq (stepped : Stepped finder live shared event next asked) :
    next.tasks.length = live.tasks.length := by
  cases stepped <;> simp [Live.fail, Live.withProgress]

/-- Once a search has failed, it has failed, and nothing is asked any more. -/
theorem Stepped.failure (stepped : Stepped finder live shared event next asked)
    (failed : live.failure = some error) :
    next.failure = some error ∧ asked = shared.calls := by
  have stopped : live.isStopped = true := by simp [Live.isStopped, failed]
  cases stepped with
  | pass => exact ⟨failed, rfl⟩
  | cancel => exact ⟨failed, rfl⟩
  | note _ _ goesOn => simp [goesOn] at failed
  | lose _ _ goesOn => simp [goesOn] at failed
  | fail _ _ goesOn => simp [goesOn] at failed
  | work _ worked =>
    cases worked with
    | ask waiting goesOn => simp [goesOn] at stopped
    | _ => exact ⟨failed, rfl⟩

theorem Blames.step (blames : Blames earlier calls pattern order live error)
    (stepped : Stepped finder live shared event next asked) :
    Blames earlier calls pattern (order ++ [event]) next error := by
  obtain ⟨before, place, after, task, cause, split, found, progressed, blamed⟩ := blames
  exact ⟨before, place, after ++ [event], task, cause, by simp [split],
    stepped.stays found progressed, progressed, blamed⟩

private theorem Undecided.pass (undecided : Undecided earlier calls pattern order live)
    (plain : event ≠ .cancel) :
    Undecided earlier calls pattern (order ++ [event]) live := by
  obtain ⟨asking, undecided, interrupted, kept, truthful⟩ := undecided
  exact ⟨asking, undecided, by simpa [plain.symm] using interrupted, kept, truthful⟩

private theorem Undecided.replace {place : Nat} {task : Task} {change : Task → Task}
    {results : Inventory.Collector} (more : List Call)
    (undecided : Undecided earlier calls pattern order live)
    (found : live.tasks[place]? = some task) (kept : (change task).isAbandoned = false)
    (truthful : Truthful earlier (more ++ calls) pattern live.isCancelled (change task).query
      (change task).progress) :
    Undecided earlier (more ++ calls) pattern order
      { live with tasks := live.tasks.modify place change, results } := by
  refine ⟨undecided.asking, undecided.undecided, undecided.interrupted, ?_, ?_⟩
  · exact Live.forall_modify found undecided.kept kept
  · exact Live.forall_modify found
      (fun other member => (undecided.truthful other member).mono more) truthful

/-- What a task comes to in a step is true of its query. -/
private theorem Undecided.worked {task : Task} {progress : Progress}
    (undecided : Undecided earlier calls pattern order live) (member : task ∈ live.tasks)
    (called : shared.calls = calls ++ earlier)
    (worked : Worked finder live shared task progress asked) :
    ∃ more, asked = more ++ calls ++ earlier ∧
      Truthful earlier (more ++ calls) pattern live.isCancelled task.query progress := by
  have honest := undecided.truthful task member
  cases worked with
  | ask waiting goesOn =>
    refine ⟨[task.query.call live.pattern], by simp [called], [], calls, ?_, ?_⟩
    · rw [undecided.asking]
      rfl
    · rw [undecided.asking, Shared.callCount, called]
  | stop unanswered stopped =>
    refine ⟨[], called, .inl ?_⟩
    simpa [Live.isStopped, undecided.undecided] using stopped
  | @answer course _ listing goesOn answered =>
    rw [listing] at honest
    refine ⟨[], called, ?_⟩
    cases ending : course.ending with
    | returns items =>
      simp only [ending, Finder.answered?, Option.some.injEq] at answered
      subst answered
      trivial
    | fails cause =>
      simp only [ending, Finder.answered?, Option.some.injEq] at answered
      subst answered
      exact .inr ⟨course, honest, .inl ending⟩
    | panics words =>
      simp only [ending, Finder.answered?, Option.some.injEq] at answered
      subst answered
      exact .inr ⟨course, honest, .inr ⟨words, ending, rfl⟩⟩
    | never => simp [ending, Finder.answered?] at answered
  | write writing => exact ⟨[], called, trivial⟩
  | keep writing => exact ⟨[], called, trivial⟩

/-- The notice of a failed task blames the right party. -/
private theorem Undecided.blames {place : Nat} {task : Task} {cause : Cause}
    (undecided : Undecided earlier calls pattern order live)
    (found : live.tasks[place]? = some task) (progressed : task.progress = .failed cause) :
    Blames earlier calls pattern (order ++ [.join place])
      (live.fail (if live.isCancelled then .cancelled else .query task.query.identifier cause))
      (if live.isCancelled then .cancelled else .query task.query.identifier cause) := by
  refine ⟨order, place, [], task.abandon, cause, rfl, ?_, by simpa using progressed, ?_⟩
  · simp [Live.fail, found]
  · have honest := undecided.truthful task (List.mem_of_getElem? found)
    rw [progressed] at honest
    cases cancelled : live.isCancelled with
    | true => exact .inl ⟨undecided.interrupted.mp cancelled, rfl⟩
    | false =>
      rw [cancelled] at honest
      have broke := honest.resolve_left (by simp)
      refine .inr ⟨fun fired => ?_, by simp, by simpa using broke⟩
      simp [undecided.interrupted.mpr fired] at cancelled

/-- While nothing has failed, only a notice decides a search, and it blames the right party. -/
theorem Undecided.step (undecided : Undecided earlier calls pattern order live)
    (called : shared.calls = calls ++ earlier)
    (stepped : Stepped finder live shared event next asked) :
    ∃ more, asked = more ++ calls ++ earlier ∧
      (Undecided earlier (more ++ calls) pattern (order ++ [event]) next ∨
        ∃ error, next.failure = some error ∧
          Blames earlier (more ++ calls) pattern (order ++ [event]) next error) := by
  cases stepped with
  | pass plain => exact ⟨[], called, .inl (undecided.pass plain)⟩
  | cancel =>
    obtain ⟨asking, undecided, interrupted, kept, truthful⟩ := undecided
    refine ⟨[], called, .inl ⟨asking, undecided, by simp, kept, ?_⟩⟩
    intro task member
    cases progressed : task.progress with
    | listing course =>
      have asked := truthful task member
      rwa [progressed] at asked
    | failed cause => exact .inl rfl
    | _ => trivial
  | @note place task found finished =>
    have member := List.mem_of_getElem? found
    have truthful : Truthful earlier ([] ++ calls) pattern live.isCancelled task.query
      task.progress := undecided.truthful task member
    have noticed : Undecided earlier ([] ++ calls) pattern order
        { live with tasks := live.tasks.modify place fun task => { task with isJoined := true } } :=
      undecided.replace [] found (undecided.kept task member) truthful
    exact ⟨[], called, .inl (noticed.pass (by simp))⟩
  | @lose _ task found given =>
    have kept := undecided.kept task (List.mem_of_getElem? found)
    simp [given] at kept
  | fail found failed => exact ⟨[], called, .inr ⟨_, rfl, undecided.blames found failed⟩⟩
  | @work _ task _ _ _ found worked =>
    have member := List.mem_of_getElem? found
    obtain ⟨more, asked, truthful⟩ := undecided.worked member called worked
    exact ⟨more, asked, .inl ((undecided.replace more found (undecided.kept task member)
      truthful).pass (by simp))⟩

end Steps

/-- However a plan is played, the search goes on or has failed with the blame on the right party. -/
theorem Plan.played_blames (finder : Finder) (plan : Plan) (pattern : String)
    (earlier : List Call) (order : List Event) :
    ∃ calls, (plan.played finder pattern earlier order).2.calls = calls ++ earlier ∧
      (Undecided earlier calls pattern order (plan.played finder pattern earlier order).1 ∨
        ∃ error, (plan.played finder pattern earlier order).1.failure = some error ∧
          Blames earlier calls pattern order (plan.played finder pattern earlier order).1
            error) := by
  induction order using List.reverseRecOn with
  | nil =>
    refine ⟨[], rfl, .inl ⟨rfl, rfl, by simp [played, Finder.history, live], ?_, ?_⟩⟩
    · intro task member
      obtain ⟨query, _, rfl⟩ := List.mem_map.mp member
      rfl
    · intro task member
      obtain ⟨query, _, rfl⟩ := List.mem_map.mp member
      trivial
  | append_singleton order event ih =>
    rw [played_snoc]
    have stepped := finder.withoutCache.step_cases event
      (plan.played finder pattern earlier order).1 (plan.played finder pattern earlier order).2
    obtain ⟨calls, called, undecided | ⟨error, failed, blames⟩⟩ := ih
    · obtain ⟨more, asked, standing⟩ := undecided.step called stepped
      exact ⟨more ++ calls, asked, standing⟩
    · obtain ⟨stays, uncalled⟩ := stepped.failure failed
      exact ⟨calls, uncalled.trans called, .inr ⟨error, stays, blames.step stepped⟩⟩

/-- What is blamed in the outline of a search is blamed in the search. -/
theorem Blames.of_outline {earlier calls : List Call} {pattern : String} {order : List Event}
    {live : Live} {error : SearchError}
    (blames : Blames earlier calls pattern order live.outline error) :
    Blames earlier calls pattern order live error := by
  obtain ⟨before, place, after, task, cause, split, found, progressed, blamed⟩ := blames
  rw [Live.outline_tasks] at found
  obtain ⟨task, present, rfl⟩ := Option.map_eq_some_iff.mp found
  refine ⟨before, place, after, task, cause, split, present, ?_, blamed⟩
  have outlined : task.progress.outline = .failed cause := progressed
  cases progressed : task.progress with
  | failed other => simpa [progressed, Progress.outline] using outlined
  | _ => simp [progressed, Progress.outline] at outlined

/-- A search that was interrupted before any query was asked. -/
structure Halted (live : Live) : Prop where
  cancelled : live.isCancelled = true
  unasked : ∀ task ∈ live.tasks, task.progress = .waiting ∨ ∃ cause, task.progress = .failed cause
  unjoined : ∀ task ∈ live.tasks, task.isJoined = false

theorem Halted.of_plan (plan : Plan) (pattern : String) :
    Halted { plan.live pattern with isCancelled := true } := by
  refine ⟨rfl, ?_, ?_⟩
  · intro task member
    obtain ⟨query, _, rfl⟩ := List.mem_map.mp member
    exact .inl rfl
  · intro task member
    obtain ⟨query, _, rfl⟩ := List.mem_map.mp member
    rfl

private theorem Halted.fail {live : Live} (halted : Halted live) (error : SearchError) :
    Halted (live.fail error) := by
  refine ⟨halted.cancelled, ?_, ?_⟩
  · intro task member
    obtain ⟨task, present, rfl⟩ := List.mem_map.mp member
    simpa using halted.unasked task present
  · intro task member
    obtain ⟨task, present, rfl⟩ := List.mem_map.mp member
    simpa using halted.unjoined task present

theorem Halted.step {finder : Finder} {live next : Live} {shared : Shared} {event : Event}
    {asked : List Call} (halted : Halted live)
    (stepped : Stepped finder live shared event next asked) :
    Halted next ∧ asked = shared.calls := by
  have stopped : live.isStopped = true := by simp [Live.isStopped, halted.cancelled]
  cases stepped with
  | pass => exact ⟨halted, rfl⟩
  | cancel => exact ⟨⟨rfl, halted.unasked, halted.unjoined⟩, rfl⟩
  | lose => exact ⟨halted.fail _, rfl⟩
  | fail => exact ⟨halted.fail _, rfl⟩
  | note found finished =>
    have unasked := halted.unasked _ (List.mem_of_getElem? found)
    simp [finished] at unasked
  | @work _ task _ _ _ found worked =>
    have member := List.mem_of_getElem? found
    have unasked := halted.unasked task member
    cases worked with
    | ask waiting goesOn => simp [goesOn] at stopped
    | answer listing goesOn => simp [goesOn] at stopped
    | write writing => simp [writing] at unasked
    | keep writing => simp [writing] at unasked
    | stop =>
      refine ⟨⟨halted.cancelled, ?_, ?_⟩, rfl⟩
      · exact Live.forall_modify found halted.unasked (.inr ⟨_, rfl⟩)
      · exact Live.forall_modify found halted.unjoined (halted.unjoined task member)

theorem Halted.work_fails {live : Live} (halted : Halted live) (finder : Finder) {place : Nat}
    {task : Task} (found : live.tasks[place]? = some task) (kept : task.isAbandoned = false)
    (shared : Shared) :
    ∃ (ended : Task) (cause : Cause),
      (finder.step (.work place) live shared).1.tasks[place]? = some ended ∧
        ended.progress = .failed cause := by
  rcases halted.unasked task (List.mem_of_getElem? found) with waiting | ⟨cause, failed⟩
  · have stopped : live.isStopped = true := by simp [Live.isStopped, halted.cancelled]
    refine ⟨{ task with progress := .failed interruption }, interruption, ?_, rfl⟩
    simp [Finder.step, found, Finder.work, waiting, kept, Live.begin, stopped, Live.withProgress]
  · exact ⟨task, cause, (finder.step_cases _ live shared).stays found failed, failed⟩

theorem Halted.join_fails {live : Live} (halted : Halted live) (finder : Finder) {place : Nat}
    {task : Task} {cause : Cause} (found : live.tasks[place]? = some task)
    (failed : task.progress = .failed cause) (kept : task.isAbandoned = false)
    (goesOn : live.failure = none) (shared : Shared) :
    ∃ error, (finder.step (.join place) live shared).1.failure = some error := by
  have unjoined := halted.unjoined task (List.mem_of_getElem? found)
  exact ⟨_, by simp [Finder.step, found, Live.join, unjoined, goesOn, kept, failed, Live.fail]; rfl⟩

theorem Halted.history {live : Live} (halted : Halted live) (finder : Finder)
    (events : List Event) (shared : Shared) :
    Halted (finder.history events live shared).1 ∧
      (finder.history events live shared).2.calls = shared.calls := by
  induction events generalizing live shared with
  | nil => exact ⟨halted, rfl⟩
  | cons event rest ih =>
    obtain ⟨halted, calls⟩ := halted.step (finder.step_cases event live shared)
    obtain ⟨last, asked⟩ := ih halted (finder.step event live shared).2
    exact ⟨last, asked.trans calls⟩

theorem Halted.of_outline {live : Live} (halted : Halted live.outline) : Halted live := by
  refine ⟨halted.cancelled, ?_, ?_⟩
  · intro task member
    have unasked := halted.unasked task.outline (List.mem_map_of_mem member)
    cases progressed : task.progress <;>
      simp_all [Task.outline, Progress.outline]
  · intro task member
    exact halted.unjoined task.outline (List.mem_map_of_mem member)

/-- Without tasks there is nothing to wait for; with one, a halted search ends in no other way than
by a failure. -/
theorem Halted.result? {live : Live} (halted : Halted live) (nonempty : live.tasks ≠ [])
    {items : Collection} : live.result? ≠ some (.ok items) := by
  intro ended
  unfold Live.result? at ended
  split at ended
  · cases ended
  · split at ended
    · rename_i joined
      obtain ⟨task, member⟩ := List.exists_mem_of_ne_nil _ nonempty
      have noticed := List.all_eq_true.mp joined task member
      simp [halted.unjoined task member] at noticed
    · cases ended

namespace Proceeds

variable {finder : Finder} {request : Request} {earlier calls : List Call}
  {situation : Situation} {count : Nat} {order : List Event} {log : List Exchange} {run : Run}
  {live : Live}

/-- A live search that has failed blames the right party. -/
theorem blames {error : SearchError}
    (proceeds : Proceeds finder request earlier situation count order log run calls)
    (staged : run.stage = .live live) (failed : live.failure = some error) :
    ∃ made, calls = made ++ earlier ∧ Blames earlier made request.pattern order live error := by
  have recounts := proceeds.recounts.2
  rw [staged] at recounts
  cases recounts with
  | @live _ _ _ plan _ _ _ _ _ played called =>
    obtain ⟨made, asked, undecided | ⟨other, lost, blames⟩⟩ :=
      plan.played_blames finder request.pattern earlier order
    · have goesOn : live.outline.failure = none := played ▸ undecided.undecided
      cases failed.symm.trans goesOn
    · have lost : live.outline.failure = some other := played ▸ lost
      cases failed.symm.trans lost
      exact ⟨made, called.trans asked, .of_outline (played ▸ blames)⟩

private theorem kept
    (proceeds : Proceeds finder request earlier situation count order log run calls)
    (staged : run.stage = .live live) (goesOn : live.failure = none) :
    ∀ task ∈ live.tasks, task.isAbandoned = false := by
  have recounts := proceeds.recounts.2
  rw [staged] at recounts
  cases recounts with
  | @live _ _ _ plan _ _ _ _ _ played called =>
    obtain ⟨made, asked, undecided | ⟨other, lost, blames⟩⟩ :=
      plan.played_blames finder request.pattern earlier order
    · rw [← played] at undecided
      exact fun task member => undecided.kept task.outline (List.mem_map_of_mem member)
    · have lost : live.outline.failure = some other := played ▸ lost
      cases goesOn.symm.trans lost

/-- A search that was interrupted first asks nobody. -/
private theorem halted {rest : List Event}
    (proceeds : Proceeds finder request earlier situation count (.cancel :: rest) log run calls) :
    calls = earlier ∧ ∀ live, run.stage = .live live → Halted live := by
  have recounts := proceeds.recounts.2
  generalize run.stage = stage at recounts
  cases recounts with
  | preparing => exact ⟨rfl, nofun⟩
  | refused => exact ⟨rfl, nofun⟩
  | @live _ _ _ plan _ _ _ _ _ played called =>
    obtain ⟨halted, uncalled⟩ := (Halted.of_plan plan request.pattern).history
      finder.withoutCache rest { calls := earlier }
    refine ⟨called.trans uncalled, ?_⟩
    rintro _ ⟨⟩
    exact .of_outline (played ▸ halted)

/-- A search that was interrupted first can only end with that. -/
private theorem cancelled {rest : List Event} {result : Except SearchError Collection}
    (proceeds : Proceeds finder request earlier situation count (.cancel :: rest) log run calls)
    (staged : run.stage = .live live) (nonempty : live.tasks ≠ [])
    (ended : live.result? = some result) : result = .error .cancelled := by
  cases result with
  | ok items => exact absurd ended ((proceeds.halted.2 live staged).result? nonempty)
  | error error =>
    have failed : live.failure = some error := by
      unfold Live.result? at ended
      split at ended
      · simp_all
      · split at ended <;> cases ended
    obtain ⟨made, _, before, place, after, task, cause, split, _, _, blamed⟩ :=
      proceeds.blames staged failed
    have first : .cancel ∈ before := by
      cases before with
      | nil => cases split
      | cons event before =>
        obtain ⟨rfl, _⟩ := List.cons.inj split
        exact List.mem_cons_self
    rcases blamed with ⟨_, rfl⟩ | ⟨unfired, _⟩
    · rfl
    · exact absurd first unfired

private theorem result?_of_failure {rest : List Event} {error : SearchError}
    (proceeds : Proceeds finder request earlier situation count (.cancel :: rest) log run calls)
    (staged : run.stage = .live live) (nonempty : live.tasks ≠ [])
    (failed : live.failure = some error) : run.result? = some (.error .cancelled) := by
  have ended : live.result? = some (.error error) := by simp [Live.result?, failed]
  have same := proceeds.cancelled staged nonempty ended
  rw [Run.result?, staged]
  exact ended.trans (congrArg some same)

end Proceeds

/-- A schedule that never leaves anything waiting forever. -/
structure Fair (schedule : Nat → Move) : Prop where
  prepares : ∀ count, ∃ later, count ≤ later ∧ schedule later = .prepare
  works : ∀ place count, ∃ later, count ≤ later ∧ schedule later = .happen (.work place)
  notices : ∀ place count, ∃ later, count ≤ later ∧ schedule later = .happen (.join place)

/-- A search and the calls after some steps of a schedule. -/
def Finder.along (finder : Finder) (request : Request) (earlier : List Call)
    (situation : Situation) (schedule : Nat → Move) : Nat → Run × List Call
  | 0 => (.start finder request, earlier)
  | count + 1 =>
    let (run, calls) := finder.along request earlier situation schedule count
    let (next, shared) := run.step (schedule count) (situation.shared count calls)
    (next, shared.calls)

section Along

variable {finder : Finder} {request : Request} {earlier : List Call} {situation : Situation}
  {schedule : Nat → Move}

theorem Finder.along_proceeds (finder : Finder) (request : Request) (earlier : List Call)
    (situation : Situation) (schedule : Nat → Move) (count : Nat) :
    ∃ order log, Proceeds finder request earlier situation count order log
      (finder.along request earlier situation schedule count).1
      (finder.along request earlier situation schedule count).2 := by
  induction count with
  | zero => exact ⟨[], [], .start⟩
  | succ count ih =>
    obtain ⟨order, log, proceeds⟩ := ih
    exact ⟨_, _, proceeds.step (schedule count)⟩

/-- An interruption at the beginning comes before everything else. -/
theorem Finder.along_cancelled (first : schedule 0 = .happen .cancel) (count : Nat) :
    ∃ rest log, Proceeds finder request earlier situation (count + 1) (.cancel :: rest) log
      (finder.along request earlier situation schedule (count + 1)).1
      (finder.along request earlier situation schedule (count + 1)).2 := by
  induction count with
  | zero =>
    have shown : (Run.start finder request).shown (schedule 0) = [.cancel] := by
      rw [first]
      rfl
    have stepped : Proceeds finder request earlier situation 1 ([] ++ _) _ _ _ :=
      Proceeds.start.step (schedule 0)
    rw [shown] at stepped
    exact ⟨[], _, stepped⟩
  | succ count ih =>
    obtain ⟨rest, log, proceeds⟩ := ih
    exact ⟨_, _, proceeds.step (schedule (count + 1))⟩

/-- What every other move keeps still holds when a move comes that is sure to come. -/
theorem along_until (Holds : Run → Prop) {move : Move}
    (recurs : ∀ count, ∃ later, count ≤ later ∧ schedule later = move)
    (keeps : ∀ run shared other, other ≠ move → Holds run → Holds (run.step other shared).1)
    {count : Nat} (now : Holds (finder.along request earlier situation schedule count).1) :
    ∃ later, count ≤ later ∧ schedule later = move ∧
      Holds (finder.along request earlier situation schedule later).1 := by
  classical
  obtain ⟨past, comes⟩ := Nat.find_spec (recurs count)
  have held : ∀ between, count ≤ between → between ≤ Nat.find (recurs count) →
      Holds (finder.along request earlier situation schedule between).1 := by
    intro between after
    induction between, after using Nat.le_induction with
    | base => exact fun _ => now
    | succ between after ih =>
      intro within
      have other : schedule between ≠ move := fun same =>
        Nat.find_min (recurs count) (Nat.lt_of_succ_le within) ⟨after, same⟩
      exact keeps _ _ _ other (ih (Nat.le_of_succ_le within))
  exact ⟨_, past, comes, held _ past (Nat.le_refl _)⟩

theorem along_settles (fair : Fair schedule) (count : Nat) : ∃ later, count ≤ later ∧
    (finder.along request earlier situation schedule later).1.IsSettled := by
  have ends (access : Access (Except SearchError Plan)) : ∀ count,
      (finder.along request earlier situation schedule count).1.stage = .preparing access →
      ∃ later, count ≤ later ∧
        (finder.along request earlier situation schedule later).1.IsSettled := by
    induction access using Access.step_induction with
    | next access ih =>
      intro count staged
      have keeps : ∀ (run : Run) (shared : Shared) (other : Move), other ≠ .prepare →
          run.stage = .preparing access → (run.step other shared).1.stage = .preparing access := by
        intro run shared other different staged
        cases other with
        | prepare => exact absurd rfl different
        | happen event => cases event <;> simp [Run.step, Run.await, staged]
      obtain ⟨later, past, comes, staged⟩ :=
        along_until (fun run => run.stage = .preparing access) fair.prepares keeps staged
      have stepped : (finder.along request earlier situation schedule (later + 1)).1 =
          ((finder.along request earlier situation schedule later).1.prepare
            (situation.shared later (finder.along request earlier situation schedule later).2)
            access).1 := by
        simp only [Finder.along, Run.step, comes, staged]
      cases made : access.exchange? (situation.now later) (situation.store later) with
      | none =>
        obtain ⟨⟨outcome, rfl⟩, _⟩ := Access.step_of_no_exchange made
        refine ⟨later + 1, Nat.le_succ_of_le past, ?_⟩
        rw [stepped]
        cases outcome <;> simp [Run.prepare, Run.IsSettled]
      | some exchange =>
        rw [Run.prepare_of_exchange _ made] at stepped
        obtain ⟨last, after, settled⟩ :=
          ih _ _ _ made (later + 1) (congrArg Run.stage stepped)
        exact ⟨last, by omega, settled⟩
  by_cases settled : (finder.along request earlier situation schedule count).1.IsSettled
  · exact ⟨count, Nat.le_refl count, settled⟩
  · obtain ⟨access, staged⟩ := by simpa [Run.IsSettled] using settled
    exact ends access count staged

theorem Finder.along_happen {count : Nat} {event : Event} {live : Live}
    (comes : schedule count = .happen event)
    (staged : (finder.along request earlier situation schedule count).1.stage = .live live) :
    (finder.along request earlier situation schedule (count + 1)).1.stage =
      .live ((finder.along request earlier situation schedule count).1.finder.step event live
        (situation.shared count (finder.along request earlier situation schedule count).2)).1 := by
  simp only [Finder.along, Run.step, comes, staged]

/-- What every event keeps of a live search, every move keeps. -/
theorem step_keeps {Holds : Live → Prop}
    (keeps : ∀ {finder event live next shared asked},
      Stepped finder live shared event next asked → Holds live → Holds next)
    (run : Run) (shared : Shared) (move : Move)
    (holds : ∃ live, run.stage = .live live ∧ Holds live) :
    ∃ live, (run.step move shared).1.stage = .live live ∧ Holds live := by
  obtain ⟨live, staged, holds⟩ := holds
  cases move with
  | prepare => exact ⟨live, by simp [Run.step, staged], holds⟩
  | happen event =>
    exact ⟨_, by simp [Run.step, staged], keeps (run.finder.step_cases event live shared) holds⟩

/-- Interrupted first, a search ends with the notice of its first task, if that has failed. -/
private theorem along_ends_of_failed (fair : Fair schedule) (first : schedule 0 = .happen .cancel)
    {count : Nat} {live : Live} {task : Task} {cause : Cause}
    (staged : (finder.along request earlier situation schedule (count + 1)).1.stage = .live live)
    (found : live.tasks[0]? = some task) (broken : task.progress = .failed cause) :
    ∃ later, (finder.along request earlier situation schedule (later + 1)).1.result? =
      some (.error .cancelled) := by
  obtain ⟨later, past, notices, live, staged, found⟩ := along_until
    (fun run => ∃ live, run.stage = .live live ∧ live.tasks[0]? = some task) (fair.notices 0)
    (fun run shared move _ =>
      step_keeps (fun stepped found => stepped.stays found broken) run shared move)
    ⟨live, staged, found⟩
  obtain ⟨later, rfl⟩ := Nat.exists_eq_succ_of_ne_zero (show later ≠ 0 by omega)
  have nonempty {live : Live} (found : live.tasks[0]? = some task) : live.tasks ≠ [] :=
    List.ne_nil_of_mem (List.mem_of_getElem? found)
  obtain ⟨rest, log, proceeds⟩ := Finder.along_cancelled first later
  cases failed : live.failure with
  | some error => exact ⟨later, proceeds.result?_of_failure staged (nonempty found) failed⟩
  | none =>
    obtain ⟨error, fails⟩ := (proceeds.halted.2 live staged).join_fails
      (finder.along request earlier situation schedule (later + 1)).1.finder found broken
      (proceeds.kept staged failed task (List.mem_of_getElem? found)) failed
      (situation.shared (later + 1) (finder.along request earlier situation schedule (later + 1)).2)
    obtain ⟨rest, log, proceeds⟩ := Finder.along_cancelled first (later + 1)
    refine ⟨later + 1,
      proceeds.result?_of_failure (Finder.along_happen notices staged) (nonempty ?_) fails⟩
    exact (Finder.step_cases ..).stays found broken

/-- A live search that was interrupted first, with something to ask, ends. -/
private theorem along_ends (fair : Fair schedule) (first : schedule 0 = .happen .cancel)
    {count : Nat} {live : Live}
    (staged : (finder.along request earlier situation schedule (count + 1)).1.stage = .live live)
    (nonempty : live.tasks ≠ []) :
    ∃ later, (finder.along request earlier situation schedule (later + 1)).1.result? =
      some (.error .cancelled) := by
  -- The first task ends at its next step, and the search at the next notice of it.
  have keeps {finder : Finder} {event : Event} {live next : Live} {shared : Shared}
      {asked : List Call} (stepped : Stepped finder live shared event next asked)
      (nonempty : live.tasks ≠ []) : next.tasks ≠ [] := by
    rwa [← List.length_pos_iff, stepped.length_eq, List.length_pos_iff]
  obtain ⟨later, past, works, live, staged, nonempty⟩ := along_until
    (fun run => ∃ live, run.stage = .live live ∧ live.tasks ≠ []) (fair.works 0)
    (fun run shared move _ => step_keeps keeps run shared move) ⟨live, staged, nonempty⟩
  obtain ⟨later, rfl⟩ := Nat.exists_eq_succ_of_ne_zero (show later ≠ 0 by omega)
  obtain ⟨rest, log, proceeds⟩ := Finder.along_cancelled first later
  cases failed : live.failure with
  | some error => exact ⟨later, proceeds.result?_of_failure staged nonempty failed⟩
  | none =>
    obtain ⟨task, others, split⟩ := List.exists_cons_of_ne_nil nonempty
    have found : live.tasks[0]? = some task := by simp [split]
    have member : task ∈ live.tasks := by simp [split]
    obtain ⟨ended, cause, there, broken⟩ := (proceeds.halted.2 live staged).work_fails
      (finder.along request earlier situation schedule (later + 1)).1.finder found
      (proceeds.kept staged failed task member) (situation.shared (later + 1)
        (finder.along request earlier situation schedule (later + 1)).2)
    exact along_ends_of_failed fair first (Finder.along_happen works staged) there broken

end Along

/-- Who is to blame. A search fails because notice was taken of a task that had failed; if the
caller had interrupted the search before that, the search says so, and otherwise it names the query
of the task, which was asked and failed of itself. Interrupted first, a search asks nobody, can end
in no other way if it has something to ask, and does end under every fair schedule. -/
theorem Proceeds.blame (finder : Finder) (request : Request) (earlier : List Call)
    (situation : Situation) :
    (∀ count order log run calls live error,
      Proceeds finder request earlier situation count order log run calls →
      run.stage = .live live → live.failure = some error →
        error ≠ .abandoned ∧
        ∃ made, calls = made ++ earlier ∧
          Blames earlier made request.pattern order live error) ∧
    (∀ count rest log run calls,
      Proceeds finder request earlier situation count (.cancel :: rest) log run calls →
        calls = earlier ∧ ∀ live result, run.stage = .live live → live.tasks ≠ [] →
          run.result? = some result → result = .error .cancelled) ∧
    ∀ schedule, Fair schedule → schedule 0 = .happen .cancel →
      ∃ count, ((finder.along request earlier situation schedule count).1.result? =
          some (.error .cancelled) ∧
        (finder.along request earlier situation schedule count).2 = earlier) ∨
        (∃ error, (finder.along request earlier situation schedule count).1.stage =
          .refused error) ∨
        ∃ live, (finder.along request earlier situation schedule count).1.stage = .live live ∧
          live.tasks = [] := by
  refine ⟨?_, ?_, ?_⟩
  · intro count order log run calls live error proceeds staged failed
    obtain ⟨made, asked, blames⟩ := proceeds.blames staged failed
    refine ⟨?_, made, asked, blames⟩
    obtain ⟨_, _, _, _, _, _, _, _, ⟨_, rfl⟩ | ⟨_, rfl, _⟩⟩ := blames <;> simp
  · intro count rest log run calls proceeds
    refine ⟨proceeds.halted.1, ?_⟩
    intro live result staged nonempty ended
    rw [Run.result?, staged] at ended
    exact proceeds.cancelled staged nonempty ended
  · intro schedule fair first
    obtain ⟨count, past, settled⟩ := @along_settles finder request earlier situation _ fair 1
    obtain ⟨count, rfl⟩ := Nat.exists_eq_succ_of_ne_zero (show count ≠ 0 by omega)
    cases staged : (finder.along request earlier situation schedule (count + 1)).1.stage with
    | preparing access => exact absurd staged (settled access)
    | refused error => exact ⟨count + 1, .inr (.inl ⟨error, staged⟩)⟩
    | live live =>
      by_cases idle : live.tasks = []
      · exact ⟨count + 1, .inr (.inr ⟨live, staged, idle⟩)⟩
      · obtain ⟨later, ended⟩ := along_ends fair first staged idle
        obtain ⟨rest, log, proceeds⟩ := Finder.along_cancelled first later
        exact ⟨later + 1, .inl ⟨ended, proceeds.halted.1⟩⟩

/-- A backend that always fails. -/
def brittle : Backend :=
  { name := "brittle", cacheKey := id, list := fun _ _ => ⟨0, .fails (.ofText "boom")⟩ }

def brittleFinder : Finder :=
  { hostsFinder with
    registry := ⟨hostsFinder.registry.descriptors ++ [
      { name := "brittle", shortName := "brittle", description := "",
        factory := fun _ _ => .ok brittle }]⟩ }

def brittleRequest : Request :=
  { backends := ["hosts", "brittle"], pattern := "web" }

/-- An interruption, and then everything in turn. -/
def roundRobin : Nat → Move
  | 0 => .happen .cancel
  | count + 1 =>
    match count % 3 with
    | 0 => .prepare
    | 1 => .happen (.work (count / 3).unpair.1)
    | _ => .happen (.join (count / 3).unpair.1)

theorem fair_roundRobin : Fair roundRobin := by
  have place (place count rest : Nat) (few : rest < 3) :
      ((3 * Nat.pair place count + rest) / 3).unpair.1 = place ∧
        (3 * Nat.pair place count + rest) % 3 = rest := by
    have whole : (3 * Nat.pair place count + rest) / 3 = Nat.pair place count := by omega
    exact ⟨by rw [whole, Nat.unpair_pair], by omega⟩
  refine ⟨fun count => ⟨3 * count + 1, by omega, ?_⟩, fun target count => ?_,
    fun target count => ?_⟩
  · simp [roundRobin]
  · obtain ⟨named, rest⟩ := place target count 1 (by omega)
    have late := Nat.right_le_pair target count
    exact ⟨3 * Nat.pair target count + 1 + 1, by omega, by simp only [roundRobin, rest, named]⟩
  · obtain ⟨named, rest⟩ := place target count 2 (by omega)
    have late := Nat.right_le_pair target count
    exact ⟨3 * Nat.pair target count + 2 + 1, by omega, by simp only [roundRobin, rest, named]⟩

/-- The backend that failed is named, and not the one that was told to stop. -/
theorem blame_brittle : ∃ situation : Situation,
    (∃ count log run calls live made, Proceeds brittleFinder brittleRequest [] situation count
        [.work 0, .work 1, .work 1, .join 1, .work 0] log run calls ∧
      run.stage = .live live ∧ live.failure = some (.query "brittle" (.ofText "boom")) ∧
      calls = made ++ [] ∧
      Blames [] made "web" [.work 0, .work 1, .work 1, .join 1, .work 0] live
        (.query "brittle" (.ofText "boom"))) ∧
    Fair roundRobin ∧ ∃ count,
      ((brittleFinder.along brittleRequest [] situation roundRobin count).1.result? =
          some (.error .cancelled) ∧
        (brittleFinder.along brittleRequest [] situation roundRobin count).2 = []) ∨
      (∃ error, (brittleFinder.along brittleRequest [] situation roundRobin count).1.stage =
        .refused error) ∨
      ∃ live, (brittleFinder.along brittleRequest [] situation roundRobin count).1.stage =
          .live live ∧ live.tasks = [] := by
  let situation : Situation := ⟨fun _ => 0, fun _ => {}⟩
  obtain ⟨blames, _, ends⟩ := Proceeds.blame brittleFinder brittleRequest [] situation
  have prepared : Proceeds brittleFinder brittleRequest [] situation _ _ _ _ _ :=
    ((Proceeds.start.step .prepare).step .prepare).step .prepare
  have asked := (prepared.step (.happen (.work 0))).step (.happen (.work 1))
  have failed := (asked.step (.happen (.work 1))).step (.happen (.join 1))
  have stopped := failed.step (.happen (.work 0))
  obtain ⟨_, made, split, named⟩ := blames _ _ _ _ _ _ _ stopped rfl rfl
  exact ⟨situation, ⟨_, _, _, _, _, made, stopped, rfl, rfl, split, named⟩, fair_roundRobin,
    ends roundRobin fair_roundRobin rfl⟩

end FleetSearch.Search
