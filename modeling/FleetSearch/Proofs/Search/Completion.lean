import FleetSearch.Proofs.Search.Blame
import FleetSearch.Proofs.Search.Ledger

/-! When searches succeed. If every backend that is asked returns something and the caller does not
interrupt the search, then every step of a task brings it nearer to its end and nothing takes it
back, so that under every fair schedule, and on the clock, the search comes to a result. -/

namespace FleetSearch.Search

open FleetSearch.Backend (Course)
open FleetSearch.Cache (Access Exchange)

theorem Plan.played_ledger {plan : Plan} (distinct : (plan.pending.map Query.identifier).Nodup)
    (finder : Finder) (request : Request) (earlier : List Call) (order : List Event) :
    ∃ calls log accounts,
      Ledger finder.withoutCache request.pattern plan.hits.held plan.pending earlier calls log
        accounts (plan.played finder request.pattern earlier order).1
        (plan.played finder request.pattern earlier order).2 := by
  induction order using List.reverseRecOn with
  | nil => exact ⟨[], [], [], .start finder.withoutCache plan request { calls := earlier } false⟩
  | append_singleton order event ih =>
    obtain ⟨calls, log, accounts, ledger⟩ := ih
    rw [played_snoc]
    obtain ⟨calls, accounts, kept⟩ :=
      ledger.advance distinct (finder.withoutCache.step_advances event _ _)
    exact ⟨calls, _, accounts, kept⟩

/-- A search is marked as interrupted exactly if it was. -/
theorem Stepped.isCancelled {finder : Finder} {live next : Live} {shared : Shared} {event : Event}
    {asked : List Call} (stepped : Stepped finder live shared event next asked) :
    next.isCancelled = true ↔ live.isCancelled = true ∨ event = .cancel := by
  cases stepped with
  | pass plain => simp [plain]
  | _ => simp [Live.fail, Live.withProgress]

theorem Plan.played_isCancelled (finder : Finder) (plan : Plan) (pattern : String)
    (earlier : List Call) (order : List Event) :
    (plan.played finder pattern earlier order).1.isCancelled = true ↔ .cancel ∈ order := by
  induction order using List.reverseRecOn with
  | nil => simp [played, Finder.history, live]
  | append_singleton order event ih =>
    rw [played_snoc, (finder.withoutCache.step_cases event _ _).isCancelled, ih]
    simp [eq_comm]

theorem Proceeds.isCancelled_iff {finder : Finder} {request : Request} {earlier calls : List Call}
    {situation : Situation} {count : Nat} {order : List Event} {log : List Exchange} {run : Run}
    {live : Live} (proceeds : Proceeds finder request earlier situation count order log run calls)
    (staged : run.stage = .live live) : live.isCancelled = true ↔ .cancel ∈ order := by
  have recounts := proceeds.recounts.2
  rw [staged] at recounts
  cases recounts with
  | @live _ _ _ plan _ _ _ _ _ played =>
    rw [← plan.played_isCancelled finder request.pattern earlier, ← played]
    rfl

/-- Whether all backends that a request can ask return something for its pattern, however often they
have been asked. -/
def Finder.Returns (finder : Finder) (request : Request) : Prop :=
  ∀ identifier ∈ request.identifiers, ∀ backend, finder.backend? identifier = some backend →
    ∀ count, ∃ items, (backend.list request.pattern count).ending = .returns items

/-- A live phase that goes well: it is not told to stop, no query has failed or will fail, and the
writes are those of the answers. -/
structure GoesWell (finder : Finder) (live : Live) : Prop where
  goesOn : live.isStopped = false
  kept : ∀ task ∈ live.tasks, task.isAbandoned = false
  unfailed : ∀ task ∈ live.tasks, ∀ cause, task.progress ≠ .failed cause
  returns : ∀ task ∈ live.tasks, ∀ course, task.progress = .listing course →
    ∃ items, course.ending = .returns items
  keeps : KeepsAnswers finder live

/-- A query of a plan is to a backend that is built for an identifier of the request. -/
theorem Prepared.of_mem_pending {finder : Finder} {request : Request} {entries : List Entry}
    (prepared : Prepared finder request entries) {query : Query}
    (pending : query ∈ (Plan.extend {} request.pattern entries).pending) :
    query.identifier ∈ request.identifiers ∧
      finder.backend? query.identifier = some query.backend := by
  rw [Plan.extend_pending] at pending
  obtain ⟨entry, missed, rfl⟩ := List.mem_map.mp pending
  have member := (List.mem_filter.mp missed).1
  exact ⟨prepared.mem_identifiers member, (prepared.sound entry member).built⟩

/-- A task of a search is for an identifier of the request, with the backend that is built for
it. -/
theorem Proceeds.of_mem_tasks {finder : Finder} {request : Request} {earlier calls : List Call}
    {situation : Situation} {count : Nat} {order : List Event} {log : List Exchange} {run : Run}
    {live : Live} {task : Task}
    (proceeds : Proceeds finder request earlier situation count order log run calls)
    (staged : run.stage = .live live) (member : task ∈ live.tasks) :
    task.query.identifier ∈ request.identifiers ∧
      finder.backend? task.query.identifier = some task.query.backend := by
  have recounts := proceeds.recounts.2
  rw [staged] at recounts
  cases recounts with
  | live led _ _ played =>
    obtain ⟨entries, prepared, _, rfl⟩ := Finder.plan_leads led
    obtain ⟨_, _, _, ledger⟩ := Plan.played_ledger
      (prepared.pending_distinct request.pattern) finder request earlier order
    rw [← played] at ledger
    refine prepared.of_mem_pending ?_
    rw [← ledger.records.queries]
    exact List.mem_map.mpr ⟨_, List.mem_map_of_mem (List.mem_map_of_mem member), rfl⟩

/-- Without an interruption, and with backends that return something, a search goes well. -/
theorem Proceeds.goesWell {finder : Finder} {request : Request} {earlier calls : List Call}
    {situation : Situation} {count : Nat} {order : List Event} {log : List Exchange} {run : Run}
    {live : Live} (returns : finder.Returns request)
    (proceeds : Proceeds finder request earlier situation count order log run calls)
    (staged : run.stage = .live live) (calm : live.isCancelled = false) :
    GoesWell finder live := by
  have uninterrupted : .cancel ∉ order := by simp [← proceeds.isCancelled_iff staged, calm]
  have recounts := proceeds.recounts.2
  rw [staged] at recounts
  cases recounts with
  | @live _ _ _ plan _ _ _ _ keeps played called =>
    -- What was asked returned something, and so nothing has broken down.
    have answers {query : Query} {course : Course} {asked : List Call} {task : Task}
        (member : task ∈ live.tasks) (same : task.query = query)
        (called : Asked earlier asked request.pattern query course) :
        ∃ items, course.ending = .returns items := by
      obtain ⟨named, built⟩ := proceeds.of_mem_tasks staged member
      obtain ⟨_, _, _, rfl⟩ := called
      exact returns _ (same ▸ named) _ (same ▸ built) _
    have sturdy {query : Query} {cause : Backend.Cause} {asked : List Call} {task : Task}
        (member : task ∈ live.tasks) (same : task.query = query) :
        ¬ Broke earlier asked request.pattern query cause := by
      rintro ⟨course, called, ended⟩
      obtain ⟨items, returned⟩ := answers member same called
      rw [returned] at ended
      rcases ended with failed | ⟨_, failed, _⟩ <;> cases failed
    obtain ⟨_, _, undecided | ⟨error, _, blames⟩⟩ :=
      plan.played_blames finder request.pattern earlier order
    · rw [← played] at undecided
      refine ⟨?_, ?_, ?_, ?_, keeps⟩
      · have goesOn : live.failure = none := undecided.undecided
        simp [Live.isStopped, calm, goesOn]
      · exact fun task member => undecided.kept task.outline (List.mem_map_of_mem member)
      · intro task member cause failed
        have truthful := undecided.truthful task.outline (List.mem_map_of_mem member)
        have outlined : task.outline.progress = .failed cause := by
          simp [Task.outline, failed, Progress.outline]
        rw [outlined] at truthful
        rcases truthful with interrupted | broke
        · exact absurd calm (by simpa [Live.outline] using interrupted)
        · exact sturdy member rfl broke
      · intro task member course listing
        have truthful := undecided.truthful task.outline (List.mem_map_of_mem member)
        have outlined : task.outline.progress = .listing course := by
          simp [Task.outline, listing, Progress.outline]
        rw [outlined] at truthful
        exact answers member rfl truthful
    · obtain ⟨before, _, after, task, cause, split, found, _, blamed⟩ := blames
      rcases blamed with ⟨interrupted, _⟩ | ⟨_, _, broke⟩
      · exact absurd (split ▸ List.mem_append_left _ interrupted) uninterrupted
      · rw [← played, Live.outline_tasks] at found
        obtain ⟨original, present, rfl⟩ := Option.map_eq_some_iff.mp found
        exact absurd broke (sturdy (List.mem_of_getElem? present) rfl)

/-- How many steps a task has to take at most before it is over. -/
def Progress.left : Progress → Nat
  | .waiting => 5
  | .listing _ => 4
  | .writing _ (.done _) => 1
  | .writing _ (.insert _ _ _) => 2
  | .writing _ _ => 3
  | .finished => 0
  | .failed _ => 0

/-- Whether notice was taken of a task. -/
def Live.Notices (place : Nat) (live : Live) : Prop :=
  ∃ task, live.tasks[place]? = some task ∧ task.isJoined = true

section Steps

variable {finder : Finder} {live next : Live} {shared : Shared} {place : Nat} {task : Task}
  {event : Event} {asked : List Call}

theorem GoesWell.finished (well : GoesWell finder live) (member : task ∈ live.tasks)
    (spent : task.progress.left = 0) : task.progress = .finished := by
  cases progressed : task.progress with
  | finished => rfl
  | failed cause => exact absurd progressed (well.unfailed task member cause)
  | writing items access => cases access <;> simp [progressed, Progress.left] at spent
  | _ => simp [progressed, Progress.left] at spent

theorem GoesWell.work_left (well : GoesWell finder live) (found : live.tasks[place]? = some task)
    (shared : Shared) :
    ∃ next, (finder.step (.work place) live shared).1.tasks[place]? = some next ∧
      next.progress.left ≤ task.progress.left - 1 ∧ next.isJoined = task.isJoined := by
  have member := List.mem_of_getElem? found
  have kept := well.kept task member
  have placed (progress : Progress) (results : Inventory.Collector) :
      ({ live.withProgress place progress with results } : Live).tasks[place]? =
        some { task with progress } := by
    simp [Live.withProgress, found]
  simp only [Finder.step, found]
  cases progressed : task.progress with
  | waiting =>
    simp only [Finder.work, progressed, kept, Live.begin, well.goesOn, Bool.false_eq_true,
      ↓reduceIte]
    exact ⟨_, placed _ live.results, by simp [Progress.left], rfl⟩
  | listing course =>
    obtain ⟨items, returned⟩ := well.returns task member course progressed
    simp only [Finder.work, progressed, kept, well.goesOn, returned, Finder.answered?,
      Bool.false_eq_true, ↓reduceIte]
    refine ⟨_, placed _ live.results, ?_, rfl⟩
    unfold Finder.written
    split <;> simp [Progress.left, Cache.put]
  | writing items access =>
    have present : (task.query, Progress.writing items access) ∈ live.work :=
      List.mem_map.mpr ⟨task, member, by rw [progressed]⟩
    obtain ⟨_, writing⟩ := well.keeps _ _ _ present
    cases writing with
    | begun =>
      simp only [Finder.work, progressed]
      exact ⟨_, placed _ live.results, by simp [Progress.left, Access.step], rfl⟩
    | timed now =>
      simp only [Finder.work, progressed]
      exact ⟨_, placed _ live.results, by simp [Progress.left, Access.step], rfl⟩
    | done result =>
      simp only [Finder.work, progressed, kept, Bool.false_eq_true, ↓reduceIte]
      exact ⟨_, placed _ (live.results.add items), by simp [Progress.left], rfl⟩
  | finished =>
    simp only [Finder.work, progressed]
    exact ⟨task, found, by simp [progressed, Progress.left], rfl⟩
  | failed cause => exact absurd progressed (well.unfailed task member cause)

/-- By all other events it stays where it is. -/
theorem Stepped.progress (stepped : Stepped finder live shared event next asked)
    (other : event ≠ .work place) (found : live.tasks[place]? = some task) :
    ∃ later, next.tasks[place]? = some later ∧ later.progress = task.progress ∧
      (task.isJoined = true → later.isJoined = true) := by
  have given (error : SearchError) : (live.fail error).tasks[place]? = some task.abandon := by
    simp [Live.fail, found]
  cases stepped with
  | pass => exact ⟨task, found, rfl, id⟩
  | cancel => exact ⟨task, found, rfl, id⟩
  | lose => exact ⟨_, given _, by simp, by simp⟩
  | fail => exact ⟨_, given _, by simp, by simp⟩
  | @note noted =>
    by_cases here : noted = place
    · subst here
      exact ⟨{ task with isJoined := true }, by simp [found], rfl, fun _ => rfl⟩
    · exact ⟨task, by simpa [here] using found, rfl, id⟩
  | @work worked =>
    have apart : worked ≠ place := by
      rintro rfl
      exact other rfl
    exact ⟨task, by simpa [Live.withProgress, apart] using found, rfl, id⟩

theorem Stepped.notices (stepped : Stepped finder live shared event next asked)
    (notices : live.Notices place) : next.Notices place := by
  obtain ⟨task, found, joined⟩ := notices
  by_cases own : event = .work place
  · subst own
    cases stepped with
    | pass => exact ⟨task, found, joined⟩
    | @work _ _ progress =>
      exact ⟨{ task with progress }, by simp [Live.withProgress, found], joined⟩
  · obtain ⟨later, there, _, still⟩ := stepped.progress own found
    exact ⟨later, there, still joined⟩

theorem Stepped.finished (stepped : Stepped finder live shared event next asked)
    (found : live.tasks[place]? = some task) (finished : task.progress = .finished) :
    ∃ later, next.tasks[place]? = some later ∧ later.progress = .finished := by
  by_cases own : event = .work place
  · subst own
    cases stepped with
    | pass => exact ⟨task, found, finished⟩
    | work there worked =>
      cases there.symm.trans found
      cases worked <;> simp_all
  · obtain ⟨later, there, same, _⟩ := stepped.progress own found
    exact ⟨later, there, same.trans finished⟩

theorem GoesWell.undecided (well : GoesWell finder live) : live.failure = none := by
  have stopped := well.goesOn
  simp only [Live.isStopped, Bool.or_eq_false_iff] at stopped
  simpa using stopped.2

theorem GoesWell.joins (well : GoesWell finder live) (found : live.tasks[place]? = some task)
    (finished : task.progress = .finished) (shared : Shared) :
    (finder.step (.join place) live shared).1.Notices place := by
  have goesOn := well.undecided
  cases joined : task.isJoined with
  | true => exact (finder.step_cases _ live shared).notices ⟨task, found, joined⟩
  | false =>
    have kept := well.kept task (List.mem_of_getElem? found)
    refine ⟨{ task with isJoined := true }, ?_, rfl⟩
    simp [Finder.step, found, Live.join, joined, goesOn, kept, finished]

end Steps

/-- A live phase that goes well has its result as soon as notice was taken of all its tasks. -/
theorem GoesWell.result? {finder : Finder} {live : Live} (well : GoesWell finder live)
    (joined : ∀ place < live.tasks.length, live.Notices place) :
    ∃ items, live.result? = some (.ok items) := by
  have all : live.tasks.all Task.isJoined = true := by
    refine List.all_eq_true.mpr fun task member => ?_
    obtain ⟨place, found⟩ := List.getElem?_of_mem member
    obtain ⟨_, same, noticed⟩ := joined place (List.getElem?_eq_some_iff.mp found).1
    cases found.symm.trans same
    exact noticed
  exact ⟨_, by rw [Live.result?, well.undecided]; exact if_pos all⟩

theorem GoesWell.ok {finder : Finder} {live : Live} (well : GoesWell finder live)
    (decided : live.result?.isSome = true) : ∃ items, live.result? = some (.ok items) := by
  unfold Live.result? at decided ⊢
  rw [well.undecided] at decided ⊢
  by_cases joined : live.tasks.all Task.isJoined = true
  · exact ⟨_, if_pos joined⟩
  · simp [joined] at decided

/-- A schedule by which the caller never interrupts the search. -/
def Calm (schedule : Nat → Move) : Prop :=
  ∀ count, schedule count ≠ .happen .cancel

/-- Whether a search has not been interrupted. -/
def Run.IsCalm (run : Run) : Prop :=
  run.isCancelled = false ∧ ∀ live, run.stage = .live live → live.isCancelled = false

theorem Run.IsCalm.step {run : Run} {move : Move} (calm : run.IsCalm)
    (plain : move ≠ .happen .cancel) (shared : Shared) : (run.step move shared).1.IsCalm := by
  obtain ⟨uninterrupted, quiet⟩ := calm
  cases move with
  | prepare =>
    cases staged : run.stage with
    | preparing access =>
      simp only [Run.step, staged]
      cases access with
      | done outcome =>
        cases outcome with
        | error error => exact ⟨uninterrupted, by simp [prepare]⟩
        | ok plan => exact ⟨uninterrupted, by simp [prepare, uninterrupted]⟩
      | _ => exact ⟨uninterrupted, by simp [prepare]⟩
    | _ => simpa only [Run.step, staged] using ⟨uninterrupted, staged ▸ quiet⟩
  | happen event =>
    have other : event ≠ .cancel := fun same => plain (congrArg Move.happen same)
    cases staged : run.stage with
    | live live =>
      simp only [Run.step, staged]
      refine ⟨uninterrupted, ?_⟩
      rintro _ ⟨⟩
      rw [← Bool.not_eq_true, (run.finder.step_cases event live shared).isCancelled]
      simp [quiet live staged, other]
    | _ =>
      simp only [Run.step, staged]
      cases event with
      | cancel => exact absurd rfl other
      | _ => exact ⟨uninterrupted, quiet⟩

/-- Whether a task is over after so many of its steps. -/
def Run.Within (left place : Nat) (run : Run) : Prop :=
  ∃ live task, run.stage = .live live ∧ live.tasks[place]? = some task ∧ task.progress.left ≤ left

def Run.Notices (place : Nat) (run : Run) : Prop :=
  ∃ live, run.stage = .live live ∧ live.Notices place

theorem Run.Within.step {left place : Nat} {run : Run} {move : Move}
    (within : run.Within left place) (other : move ≠ .happen (.work place)) (shared : Shared) :
    (run.step move shared).1.Within left place := by
  obtain ⟨live, task, staged, found, near⟩ := within
  cases move with
  | prepare => exact ⟨live, task, by simp [Run.step, staged], found, near⟩
  | happen event =>
    have elsewhere : event ≠ .work place := fun same => other (congrArg Move.happen same)
    obtain ⟨later, there, same, _⟩ :=
      (run.finder.step_cases event live shared).progress elsewhere found
    exact ⟨_, later, by simp [Run.step, staged], there, same ▸ near⟩

theorem Run.Notices.step {place : Nat} {run : Run} (notices : run.Notices place) (move : Move)
    (shared : Shared) : (run.step move shared).1.Notices place :=
  step_keeps Stepped.notices run shared move notices

section Along

variable {finder : Finder} {request : Request} {earlier : List Call} {situation : Situation}
  {schedule : Nat → Move} {count place left : Nat} {live : Live}

theorem along_isCalm (calm : Calm schedule) (count : Nat) :
    (finder.along request earlier situation schedule count).1.IsCalm := by
  induction count with
  | zero => exact ⟨rfl, nofun⟩
  | succ count ih => exact ih.step (calm count) _

theorem along_goesWell (returns : finder.Returns request) (calm : Calm schedule)
    (staged : (finder.along request earlier situation schedule count).1.stage = .live live) :
    GoesWell finder live := by
  obtain ⟨_, _, proceeds⟩ := finder.along_proceeds request earlier situation schedule count
  exact proceeds.goesWell returns staged ((along_isCalm calm count).2 live staged)

theorem along_finder (finder : Finder) (request : Request) (earlier : List Call)
    (situation : Situation) (schedule : Nat → Move) (count : Nat) :
    (finder.along request earlier situation schedule count).1.finder = finder := by
  obtain ⟨_, _, proceeds⟩ := finder.along_proceeds request earlier situation schedule count
  exact proceeds.recounts.1.1

/-- A task that is let work again and again comes to its end. -/
theorem along_finishes (fair : Fair schedule) (returns : finder.Returns request)
    (calm : Calm schedule)
    (within : (finder.along request earlier situation schedule count).1.Within left place) :
    ∃ later, count ≤ later ∧
      (finder.along request earlier situation schedule later).1.Within 0 place := by
  induction left generalizing count with
  | zero => exact ⟨count, Nat.le_refl count, within⟩
  | succ left ih =>
    obtain ⟨later, past, comes, live, task, staged, found, near⟩ := along_until
      (Run.Within (left + 1) place) (fair.works place)
      (fun run shared move other within => within.step other shared) within
    have well := along_goesWell returns calm staged
    have stepped := Finder.along_happen comes staged
    rw [along_finder] at stepped
    obtain ⟨next, there, nearer, _⟩ := well.work_left found
      (situation.shared later (finder.along request earlier situation schedule later).2)
    obtain ⟨last, after, within⟩ := ih ⟨_, next, stepped, there, by omega⟩
    exact ⟨last, by omega, within⟩

theorem along_notices (fair : Fair schedule) (returns : finder.Returns request)
    (calm : Calm schedule)
    (within : (finder.along request earlier situation schedule count).1.Within left place) :
    ∃ later, count ≤ later ∧
      (finder.along request earlier situation schedule later).1.Notices place := by
  obtain ⟨_, past, live, task, staged, found, ended⟩ := along_finishes fair returns calm within
  have finished := (along_goesWell returns calm staged).finished (List.mem_of_getElem? found)
    (Nat.le_zero.mp ended)
  obtain ⟨later, after, comes, live, staged, task, found, finished⟩ := along_until
    (fun run => ∃ live, run.stage = .live live ∧
      ∃ task, live.tasks[place]? = some task ∧ task.progress = .finished) (fair.notices place)
    (fun run shared move _ => step_keeps (fun stepped ⟨_, found, finished⟩ =>
      stepped.finished found finished) run shared move)
    ⟨live, staged, task, found, finished⟩
  have stepped := Finder.along_happen comes staged
  rw [along_finder] at stepped
  exact ⟨later + 1, by omega, _, stepped,
    (along_goesWell returns calm staged).joins found finished _⟩

theorem along_keeps {Holds : Run → Prop}
    (keeps : ∀ run move shared, Holds run → Holds (run.step move shared).1) {later : Nat}
    (past : count ≤ later)
    (holds : Holds (finder.along request earlier situation schedule count).1) :
    Holds (finder.along request earlier situation schedule later).1 := by
  induction later, past using Nat.le_induction with
  | base => exact holds
  | succ later _ ih => exact keeps _ _ _ ih

theorem along_notices_all (fair : Fair schedule) (returns : finder.Returns request)
    (calm : Calm schedule)
    (staged : (finder.along request earlier situation schedule count).1.stage = .live live)
    (few : place ≤ live.tasks.length) :
    ∃ later, count ≤ later ∧ ∀ other < place,
      (finder.along request earlier situation schedule later).1.Notices other := by
  induction place with
  | zero => exact ⟨count, Nat.le_refl count, nofun⟩
  | succ place ih =>
    obtain ⟨middle, past, others⟩ := ih (Nat.le_of_succ_le few)
    have found : live.tasks[place]? = some live.tasks[place] := List.getElem?_eq_getElem few
    obtain ⟨last, after, notices⟩ :=
      along_notices fair returns calm ⟨live, _, staged, found, Nat.le_refl _⟩
    refine ⟨max middle last, by omega, fun other near => ?_⟩
    have keeps (run : Run) (move : Move) (shared : Shared) (notices : run.Notices other) :
        (run.step move shared).1.Notices other := notices.step move shared
    rcases Nat.lt_succ_iff_lt_or_eq.mp near with less | rfl
    · exact along_keeps keeps (Nat.le_max_left ..) (others other less)
    · exact along_keeps keeps (Nat.le_max_right ..) notices

/-- A search that is refused is refused for the reason that its request gives. -/
theorem Recounts.refusal?_eq {error : SearchError} {order : List Event} {log : List Exchange}
    {isCancelled : Bool} {calls : List Call}
    (recounts : Recounts finder request earlier order log isCancelled (.refused error) calls) :
    finder.refusal? request = some error := by
  cases recounts with
  | refused led => exact Finder.refusal?_of_leads led

/-- A search that can be prepared, with backends that return something, succeeds under every fair
schedule by which it is not interrupted. -/
theorem along_succeeds (fair : Fair schedule) (calm : Calm schedule)
    (ready : finder.refusal? request = none) (returns : finder.Returns request) :
    ∃ count items, (finder.along request earlier situation schedule count).1.result? =
      some (.ok items) := by
  obtain ⟨count, _, settled⟩ := @along_settles finder request earlier situation _ fair 0
  cases staged : (finder.along request earlier situation schedule count).1.stage with
  | preparing access => exact absurd staged (settled access)
  | refused error =>
    obtain ⟨_, _, proceeds⟩ := finder.along_proceeds request earlier situation schedule count
    have refused := (staged ▸ proceeds.recounts.2).refusal?_eq
    cases refused.symm.trans ready
  | live live =>
    obtain ⟨later, past, notices⟩ :=
      along_notices_all fair returns calm staged (Nat.le_refl live.tasks.length)
    obtain ⟨last, there, same⟩ := along_keeps
      (fun run move shared => @step_keeps (fun next => next.tasks.length = live.tasks.length)
        (fun stepped same => stepped.length_eq.trans same) run shared move)
      past ⟨live, staged, rfl⟩
    obtain ⟨items, ended⟩ := (along_goesWell returns calm there).result? fun place less => by
      obtain ⟨other, here, noticed⟩ := notices place (same ▸ less)
      cases there.symm.trans here
      exact noticed
    exact ⟨later, items, by rw [Run.result?, there]; exact ended⟩

end Along

end FleetSearch.Search
