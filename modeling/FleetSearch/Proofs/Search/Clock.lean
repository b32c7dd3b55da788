import FleetSearch.Proofs.Cache.InForce
import FleetSearch.Proofs.Search.Completion

/-! When searches succeed on the clock: every task begins, the answers come at their moments, and
each of them is followed by all that its task has to do. -/

namespace FleetSearch.Search

open FleetSearch.Cache (Access)
open FleetSearch.Inventory (Collection)

section Timed

variable {now place : Nat} {event : Event} {events : List Event}
  {moments : List (Nat × List Event)} {live : Live} {task : Task}

theorem sublist_timed {moment : Nat} (member : (moment, events) ∈ moments) :
    events.Sublist (timed now moments) := by
  induction moments generalizing now with
  | nil => cases member
  | cons first rest ih =>
    obtain ⟨start, others⟩ := first
    rw [timed]
    rcases List.mem_cons.mp member with same | later
    · cases same
      exact (List.sublist_append_left _ _).cons _
    · exact ((ih later).trans (List.sublist_append_right _ _)).cons _

theorem of_mem_timed (member : event ∈ timed now moments) :
    (∃ millis, event = .wait millis) ∨ ∃ item ∈ moments, event ∈ item.2 := by
  induction moments generalizing now with
  | nil => cases member
  | cons first rest ih =>
    obtain ⟨moment, events⟩ := first
    rw [timed, List.cons_append, List.mem_cons, List.mem_append] at member
    rcases member with rfl | here | later
    · exact .inl ⟨_, rfl⟩
    · exact .inr ⟨_, List.mem_cons_self, here⟩
    · rcases ih later with waits | ⟨item, present, there⟩
      · exact .inl waits
      · exact .inr ⟨item, List.mem_cons_of_mem _ present, there⟩

theorem Live.completion_sublist {course : Backend.Course} {items : Collection}
    (found : live.tasks[place]? = some task) (listing : task.progress = .listing course)
    (returned : course.ending = .returns items) :
    (completion place).Sublist (live.timeline none) := by
  have moment : answerMoment? task = some course.delay := by
    simp [answerMoment?, listing, returned]
  have answer : (course.delay, completion place) ∈ live.answers := by
    refine List.mem_filterMap.mpr ⟨(task, place), ?_, by simp [moment]⟩
    exact List.mem_zipIdx_iff_getElem?.mpr found
  exact sublist_timed (List.mem_mergeSort.mpr (List.mem_append_right _ answer))

theorem Live.opening_none (live : Live) :
    live.opening none = (List.range live.tasks.length).map .work := by
  simp [opening]

theorem Live.cancel_notMem_opening (live : Live) : .cancel ∉ live.opening none := by
  simp [opening_none]

theorem Live.cancel_notMem_timeline (live : Live) : .cancel ∉ live.timeline none := by
  intro member
  rcases of_mem_timed member with ⟨_, waits⟩ | ⟨item, present, there⟩
  · cases waits
  · have answer : item ∈ live.answers := by
      simpa [interruptions] using List.mem_mergeSort.mp present
    obtain ⟨⟨task, place⟩, _, given⟩ := List.mem_filterMap.mp answer
    obtain ⟨moment, _, rfl⟩ := Option.map_eq_some_iff.mp given
    simp [completion] at there

end Timed

/-- What every event keeps holds after all of them. -/
theorem Finder.advance_keeps {Holds : Live × Shared → Prop} (finder : Finder) {events : List Event}
    (keeps : ∀ event ∈ events, ∀ live shared, Holds (live, shared) →
      Holds (finder.step event live shared)) {state : Live × Shared} (holds : Holds state) :
    Holds (finder.advance events state) := by
  induction events generalizing state with
  | nil => exact holds
  | cons event rest ih =>
    unfold advance
    split
    · exact holds
    · exact ih (fun event member => keeps event (List.mem_cons_of_mem _ member))
        (keeps event List.mem_cons_self _ _ holds)

section Advance

variable {finder : Finder} {event : Event} {rest : List Event} {state : Live × Shared}

theorem Finder.advance_of_decided (decided : state.1.result?.isSome = true)
    (events : List Event) : finder.advance events state = state := by
  cases events with
  | nil => rfl
  | cons event rest => rw [advance, if_pos decided]

theorem Finder.advance_of_undecided {live : Live} {shared : Shared}
    (undecided : live.result?.isSome = false) :
    finder.advance (event :: rest) (live, shared) =
      finder.advance rest (finder.step event live shared) := by
  rw [advance, if_neg (by simp [undecided])]

end Advance

/-- A live phase, alone with its store, that nobody has interrupted. -/
structure Underway (finder : Finder) (request : Request) (shared : Shared)
    (state : Live × Shared) : Prop where
  reached : ∃ log, Reaches finder request shared log ⟨finder, request, false, .live state.1⟩ state.2
  calm : state.1.isCancelled = false

/-- A preparation can be carried through at one moment. -/
theorem Reaches.of_run {finder : Finder} {request : Request} {shared : Shared}
    {outcome : Except SearchError Plan} {store : Cache.Store}
    (planned : (finder.plan request).run shared.now shared.store = (outcome, store)) :
    ∃ log, Reaches finder request shared log ⟨finder, request, false, .preparing (.done outcome)⟩
      { shared with store } := by
  have started : Reaches finder request shared []
      { Run.start finder request with stage := .preparing (finder.plan request) } shared := .start
  obtain ⟨log, prepared⟩ := started.run_access
  rw [planned] at prepared
  exact ⟨log, prepared⟩

namespace Underway

variable {finder : Finder} {request : Request} {shared now : Shared} {live : Live}
  {place : Nat} {task : Task} {events : List Event}

/-- A preparation that succeeds gives way to a live phase. -/
theorem of_plan {plan : Plan} {store : Cache.Store}
    (planned : (finder.plan request).run shared.now shared.store = (.ok plan, store)) :
    Underway finder request shared (plan.live request.pattern, { shared with store }) := by
  obtain ⟨log, reached⟩ := Reaches.of_run planned
  exact ⟨⟨_, reached.step .prepare⟩, rfl⟩

theorem goesWell (underway : Underway finder request shared (live, now))
    (returns : finder.Returns request) : GoesWell finder live := by
  obtain ⟨⟨log, reached⟩, calm⟩ := underway
  obtain ⟨_, _, _, proceeds⟩ := reached.proceeds
  exact proceeds.goesWell returns rfl calm

theorem step {event : Event} (underway : Underway finder request shared (live, now))
    (other : event ≠ .cancel) : Underway finder request shared (finder.step event live now) := by
  obtain ⟨⟨log, reached⟩, calm⟩ := underway
  refine ⟨⟨_, reached.step (.happen event)⟩, ?_⟩
  rw [← Bool.not_eq_true, (finder.step_cases event live now).isCancelled]
  simp [show live.isCancelled = false from calm, other]

theorem advance (underway : Underway finder request shared (live, now))
    (uninterrupted : .cancel ∉ events) :
    Underway finder request shared (finder.advance events (live, now)) :=
  finder.advance_keeps
    (fun _ member _ _ holds => holds.step fun same => uninterrupted (same ▸ member)) underway

theorem begins (underway : Underway finder request shared (live, now))
    (returns : finder.Returns request) (found : live.tasks[place]? = some task)
    (waiting : task.progress = .waiting) :
    ∃ course, (finder.step (.work place) live now).1.tasks[place]? =
      some { task with progress := .listing course } := by
  have well := underway.goesWell returns
  have kept := well.kept task (List.mem_of_getElem? found)
  simp [Finder.step, found, Finder.work, waiting, kept, Live.begin, well.goesOn,
    Live.withProgress]

/-- Every task begins, unless the result is decided before. -/
theorem opened (underway : Underway finder request shared (live, now))
    (returns : finder.Returns request) {places : List Nat} (distinct : places.Nodup)
    (waits : ∀ place task, live.tasks[place]? = some task →
      if place ∈ places then task.progress = .waiting
      else ∃ course, task.progress = .listing course) :
    (finder.advance (places.map .work) (live, now)).1.result?.isSome = true ∨
      ∀ task ∈ (finder.advance (places.map .work) (live, now)).1.tasks,
        ∃ course, task.progress = .listing course := by
  induction places generalizing live now with
  | nil =>
    refine .inr fun task member => ?_
    obtain ⟨place, found⟩ := List.getElem?_of_mem member
    simpa using waits place task found
  | cons first rest ih =>
    obtain ⟨apart, distinct⟩ := List.nodup_cons.mp distinct
    cases decided : live.result?.isSome with
    | true =>
      rw [Finder.advance_of_decided decided]
      exact .inl decided
    | false =>
      rw [List.map_cons, Finder.advance_of_undecided decided]
      have stepped := finder.step_cases (.work first) live now
      have next : Underway finder request shared (finder.step (.work first) live now) :=
        underway.step (by simp)
      refine ih next distinct fun place task found => ?_
      have early : place < live.tasks.length :=
        stepped.length_eq ▸ (List.getElem?_eq_some_iff.mp found).1
      have original := List.getElem?_eq_getElem early
      have waiting := waits place _ original
      by_cases here : place = first
      · subst here
        obtain ⟨course, begun⟩ := underway.begins returns original (by simpa using waiting)
        cases begun.symm.trans found
        simp [apart]
      · have elsewhere : Event.work first ≠ .work place := by simpa using Ne.symm here
        obtain ⟨later, there, same, _⟩ := stepped.progress elsewhere original
        cases there.symm.trans found
        simpa [here, same] using waiting

theorem nears (underway : Underway finder request shared (live, now))
    (returns : finder.Returns request) (found : live.tasks[place]? = some task) (event : Event) :
    ∃ later, (finder.step event live now).1.tasks[place]? = some later ∧
      later.progress.left ≤ task.progress.left := by
  by_cases own : event = .work place
  · subst own
    obtain ⟨later, there, nearer, _⟩ := (underway.goesWell returns).work_left found now
    exact ⟨later, there, by omega⟩
  · obtain ⟨later, there, same, _⟩ := (finder.step_cases event live now).progress own found
    exact ⟨later, there, Nat.le_of_eq (congrArg Progress.left same)⟩

/-- A task that is let work often enough and is noticed then is noticed in the end, unless the
result is decided before. -/
theorem joins (underway : Underway finder request shared (live, now))
    (returns : finder.Returns request) (uninterrupted : .cancel ∉ events)
    (found : live.tasks[place]? = some task) {steps : Nat} (near : task.progress.left ≤ steps)
    (scheduled :
      (List.replicate steps (Event.work place) ++ [Event.join place]).Sublist events) :
    (finder.advance events (live, now)).1.result?.isSome = true ∨
      (finder.advance events (live, now)).1.Notices place := by
  -- Along the events, of which each is the next one in the schedule or not.
  induction events generalizing live now task steps with
  | nil => simp at scheduled
  | cons event rest ih =>
    cases decided : live.result?.isSome with
    | true =>
      rw [Finder.advance_of_decided decided]
      exact .inl decided
    | false =>
      rw [Finder.advance_of_undecided decided]
      rw [List.mem_cons, not_or] at uninterrupted
      have next := underway.step (Ne.symm uninterrupted.1)
      have well := underway.goesWell returns
      rcases List.sublist_cons_iff.mp scheduled with still | ⟨own, same, others⟩
      · obtain ⟨later, there, nearer⟩ := underway.nears returns found event
        exact ih next uninterrupted.2 there (Nat.le_trans nearer near) still
      · cases steps with
        | zero =>
          obtain ⟨rfl, rfl⟩ := List.cons.inj same
          have finished := well.finished (List.mem_of_getElem? found) (Nat.le_zero.mp near)
          have keeps (event : Event) (live : Live) (shared : Shared) :
              live.Notices place → (finder.step event live shared).1.Notices place :=
            (finder.step_cases event live shared).notices
          exact .inr (@Finder.advance_keeps (fun state => state.1.Notices place) finder _
            (fun event _ => keeps event) _ (well.joins found finished now))
        | succ steps =>
          obtain ⟨rfl, rfl⟩ := List.cons.inj same
          obtain ⟨later, there, nearer, _⟩ := well.work_left found now
          exact ih next uninterrupted.2 there (by omega) others

/-- When all tasks have begun, the answers on the clock bring the search to its end. -/
theorem ends (underway : Underway finder request shared (live, now))
    (returns : finder.Returns request)
    (begun : ∀ task ∈ live.tasks, ∃ course, task.progress = .listing course) :
    ∃ items, (finder.advance (live.timeline none) (live, now)).1.result? = some (.ok items) := by
  have uninterrupted := live.cancel_notMem_timeline
  have last := (underway.advance uninterrupted).goesWell returns
  cases decided : (finder.advance (live.timeline none) (live, now)).1.result?.isSome with
  | true => exact last.ok decided
  | false =>
    have same : (finder.advance (live.timeline none) (live, now)).1.tasks.length =
        live.tasks.length :=
      @Finder.advance_keeps (fun state => state.1.tasks.length = live.tasks.length) finder _
        (fun event _ next shared same => (finder.step_cases event next shared).length_eq.trans same)
        _ rfl
    refine last.result? fun place inside => ?_
    have early : place < live.tasks.length := same ▸ inside
    have found := List.getElem?_eq_getElem early
    obtain ⟨course, listing⟩ := begun _ (List.mem_of_getElem? found)
    obtain ⟨items, returned⟩ :=
      (underway.goesWell returns).returns _ (List.mem_of_getElem? found) course listing
    have joined := underway.joins returns uninterrupted found
      (by simp [listing, Progress.left]) (Live.completion_sublist found listing returned)
    exact joined.resolve_left (by simp [decided])

end Underway

/-- A search without an interruption on the clock is a course without one. -/
theorem Finder.find_calm (finder : Finder) (request : Request) (shared : Shared) :
    ∃ log run, Reaches finder request shared log run (finder.find request none shared).2 ∧
      run.IsCalm ∧ run.result? = (finder.find request none shared).1 := by
  unfold find
  cases planned : (finder.plan request).run shared.now shared.store with
  | mk outcome store =>
    cases outcome with
    | error error =>
      obtain ⟨log, reached⟩ := Reaches.of_run planned
      exact ⟨_, _, reached.step .prepare, ⟨rfl, nofun⟩, rfl⟩
    | ok plan =>
      have underway := Underway.of_plan planned
      have begun := underway.advance (plan.live request.pattern).cancel_notMem_opening
      obtain ⟨⟨log, reached⟩, calm⟩ := begun.advance (Live.cancel_notMem_timeline _)
      refine ⟨log, _, reached, ⟨rfl, ?_⟩, rfl⟩
      rintro _ ⟨⟩
      exact calm

/-- A search that can be prepared, with backends that return something, succeeds on the clock. -/
theorem Finder.find_succeeds {finder : Finder} {request : Request}
    (ready : finder.refusal? request = none) (returns : finder.Returns request) (shared : Shared) :
    ∃ items, (finder.find request none shared).1 = some (.ok items) := by
  obtain ⟨_, led, _⟩ := Access.leads_run shared.now shared.store (finder.plan request)
  unfold find
  cases planned : (finder.plan request).run shared.now shared.store with
  | mk outcome store =>
    rw [planned] at led
    cases outcome with
    | error error => cases ready.symm.trans (Finder.refusal?_of_leads led)
    | ok plan =>
      have underway := Underway.of_plan planned
      have waits : ∀ place task, (plan.live request.pattern).tasks[place]? = some task →
          if place ∈ List.range (plan.live request.pattern).tasks.length then
            task.progress = .waiting
          else ∃ course, task.progress = .listing course := by
        intro place task found
        obtain ⟨query, _, rfl⟩ := List.mem_map.mp (List.mem_of_getElem? found)
        simp [(List.getElem?_eq_some_iff.mp found).1]
      have next := underway.advance (plan.live request.pattern).cancel_notMem_opening
      have opened := underway.opened returns List.nodup_range waits
      rw [← Live.opening_none] at opened
      rcases opened with decided | begun
      · obtain ⟨items, ended⟩ := (next.goesWell returns).ok decided
        exact ⟨items, by dsimp only; rw [Finder.advance_of_decided decided]; exact ended⟩
      · exact next.ends returns begun

end FleetSearch.Search
