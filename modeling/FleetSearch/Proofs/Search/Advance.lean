import FleetSearch.Proofs.Cache.Exchange
import FleetSearch.Search.Live

/-! Everything that an event can do to a search in its live phase, said once: the rest of the theory
goes through these cases and does not open the step function again. -/

namespace FleetSearch.Search

open FleetSearch.Backend (Course)
open FleetSearch.Cache (Access CacheError Exchange Store)
open FleetSearch.Inventory (Collection)

/-- The exchange with the store that the next step of a task brings about. -/
@[simp] def Progress.exchange? (progress : Progress) (shared : Shared) : Option Exchange :=
  match progress with
  | .writing _ access => access.exchange? shared.now shared.store
  | _ => none

namespace Task

@[simp] theorem abandon_query (task : Task) : task.abandon.query = task.query := by
  unfold abandon
  split <;> rfl

@[simp] theorem abandon_progress (task : Task) : task.abandon.progress = task.progress := by
  unfold abandon
  split <;> rfl

@[simp] theorem abandon_isJoined (task : Task) : task.abandon.isJoined = task.isJoined := by
  unfold abandon
  split <;> rfl

end Task

namespace Live

/-- The exchange with the store that an event brings about. -/
def exchange? (live : Live) (event : Event) (shared : Shared) : Option Exchange :=
  match event with
  | .work place => live.tasks[place]?.bind fun task => task.progress.exchange? shared
  | _ => none

/-- The queries with how far they have come. -/
def work (live : Live) : List (Query × Progress) :=
  live.tasks.map fun task => (task.query, task.progress)

theorem work_of_plan (plan : Plan) (pattern : String) (isCancelled : Bool) :
    work { plan.live pattern with isCancelled } =
      plan.pending.map fun query => (query, .waiting) := by
  simp [work, Plan.live]

/-- Notice is only taken of queries whose answers are among the results. -/
def NoticesFinished (live : Live) : Prop :=
  ∀ task ∈ live.tasks, task.isJoined = true → task.progress = .finished

theorem split_at {live : Live} {place : Nat} {task : Task}
    (found : live.tasks[place]? = some task) :
    ∃ before after, live.tasks = before ++ task :: after ∧ ∀ change : Task → Task,
      live.tasks.modify place change = before ++ change task :: after := by
  obtain ⟨within, same⟩ := List.getElem?_eq_some_iff.mp found
  subst same
  refine ⟨live.tasks.take place, live.tasks.drop (place + 1), ?_, ?_⟩
  · simp
  · intro change
    exact List.modify_eq_take_cons_drop within

theorem NoticesFinished.replace {live other : Live} {before after : List Task} {task next : Task}
    (notices : live.NoticesFinished) (split : live.tasks = before ++ task :: after)
    (changed : other.tasks = before ++ next :: after)
    (kept : next.isJoined = true → next.progress = .finished) : other.NoticesFinished := by
  intro member present joined
  rw [changed] at present
  rcases List.mem_append.mp present with early | late
  · exact notices member (by simp [split, early]) joined
  · rcases List.mem_cons.mp late with rfl | late
    · exact kept joined
    · exact notices member (by simp [split, late]) joined

end Live

/-- The call that a query makes. -/
def Query.call (query : Query) (pattern : String) : Call :=
  ⟨query.identifier, query.backend.name, pattern⟩

/-- A query is one of the calls since some earlier ones, and this is the course that its backend
takes after all calls before it. -/
def Asked (earlier calls : List Call) (pattern : String) (query : Query) (course : Course) : Prop :=
  ∃ later before, calls = later ++ query.call pattern :: before ∧
    course = query.backend.list pattern
      ((before ++ earlier).countP fun call => call.backend == query.backend.name)

/-- A query was asked and its backend returned these instances. -/
def Answered (earlier calls : List Call) (pattern : String) (query : Query) (items : Collection) :
    Prop :=
  ∃ course, Asked earlier calls pattern query course ∧ course.ending = .returns items

theorem Asked.mono {earlier calls : List Call} {pattern : String} {query : Query} {course : Course}
    (asked : Asked earlier calls pattern query course) (more : List Call) :
    Asked earlier (more ++ calls) pattern query course := by
  obtain ⟨later, before, split, same⟩ := asked
  exact ⟨more ++ later, before, by simp [split], same⟩

theorem Answered.mono {earlier calls : List Call} {pattern : String} {query : Query}
    {items : Collection} (answered : Answered earlier calls pattern query items)
    (more : List Call) : Answered earlier (more ++ calls) pattern query items := by
  obtain ⟨course, asked, returned⟩ := answered
  exact ⟨course, asked.mono more, returned⟩

/-- What can remain of keeping an answer in the cache, with the number of writes still to come. -/
inductive Finder.Writing (finder : Finder) (query : Query) (items : Collection) :
    Nat → Access (Except CacheError Unit) → Prop where
  | begun : Writing finder query items 1
      (.clock fun now => .insert query.place ⟨items.write, finder.lifetime.deadline? now⟩ .done)
  | timed (now : Nat) : Writing finder query items 1
      (.insert query.place ⟨items.write, finder.lifetime.deadline? now⟩ .done)
  | done (result : Except CacheError Unit) : Writing finder query items 0 (.done result)

namespace Finder.Writing

variable {finder : Finder} {query : Query} {items : Collection} {left : Nat}
  {access : Access (Except CacheError Unit)}

theorem written (finder : Finder) (query : Query) (items : Collection) :
    ∃ left, left ≤ 1 ∧ finder.Writing query items left (finder.written query items) := by
  unfold Finder.written
  split
  · exact ⟨1, Nat.le_refl 1, .begun⟩
  · exact ⟨0, Nat.zero_le 1, .done _⟩

/-- A step of the write spends what it writes, and writes nothing but the answer in its place. -/
theorem step {now : Nat} {store : Store} {exchange : Exchange}
    (writing : finder.Writing query items left access)
    (made : access.exchange? now store = some exchange) :
    (∃ rest, finder.Writing query items rest (access.step now store).1 ∧
      rest + (if exchange.writesTo query.identifier then 1 else 0) = left) ∧
    ((∃ moment, exchange = .clock moment) ∨ ∃ moment reply,
      exchange = .insert query.place ⟨items.write, finder.lifetime.deadline? moment⟩ reply) := by
  cases writing with
  | begun =>
    cases made
    exact ⟨⟨1, .timed now, rfl⟩, .inl ⟨now, rfl⟩⟩
  | timed moment =>
    cases made
    exact ⟨⟨0, .done _, by simp [Exchange.writesTo, Query.place]⟩, .inr ⟨moment, _, rfl⟩⟩
  | done => cases made

end Finder.Writing

/-- What an event can do, with the exchange that it brings about. -/
inductive Advance (finder : Finder) (live : Live) (shared : Shared) :
    Option Exchange → Live → Shared → Prop where
  /-- No query gets further: time passes, a flag is set or a notice is taken. -/
  | rest (next : Live) (millis : Nat) (work : next.work = live.work)
      (pattern : next.pattern = live.pattern) (results : next.results = live.results)
      (notices : live.NoticesFinished → next.NoticesFinished) :
      Advance finder live shared none next (shared.wait millis)
  /-- A backend is asked. -/
  | ask {before after : List Task} {task : Task} {course : Course}
      (split : live.tasks = before ++ task :: after) (waiting : task.progress = .waiting)
      (asked : course =
        task.query.backend.list live.pattern (shared.callCount task.query.backend.name)) :
      Advance finder live shared none
        { live with tasks := before ++ { task with progress := .listing course } :: after }
        { shared with calls := task.query.call live.pattern :: shared.calls }
  /-- A query ends without an answer. -/
  | fail {before after : List Task} {task : Task} (cause : Backend.Cause)
      (split : live.tasks = before ++ task :: after)
      (unanswered : task.progress = .waiting ∨ ∃ course, task.progress = .listing course) :
      Advance finder live shared none
        { live with tasks := before ++ { task with progress := .failed cause } :: after } shared
  /-- An answer comes in, to be written to the cache. -/
  | answer {before after : List Task} {task : Task} {course : Course} {items : Collection}
      (split : live.tasks = before ++ task :: after) (listing : task.progress = .listing course)
      (returned : course.ending = .returns items) :
      Advance finder live shared none
        { live with tasks := before ++
            { task with progress := .writing items (finder.written task.query items) } :: after }
        shared
  /-- The write takes a step. -/
  | write {before after : List Task} {task : Task} {items : Collection}
      {access : Access (Except CacheError Unit)} {exchange : Exchange}
      (split : live.tasks = before ++ task :: after)
      (writing : task.progress = .writing items access)
      (made : access.exchange? shared.now shared.store = some exchange) :
      Advance finder live shared (some exchange)
        { live with tasks := before ++
            { task with
              progress := .writing items (access.step shared.now shared.store).1 } :: after }
        { shared with store := exchange.apply shared.store }
  /-- An answer that needs no more writing joins the results. -/
  | keep {before after : List Task} {task : Task} {items : Collection}
      {result : Except CacheError Unit} (split : live.tasks = before ++ task :: after)
      (written : task.progress = .writing items (.done result)) :
      Advance finder live shared none
        { live with
          tasks := before ++ { task with progress := .finished } :: after
          results := live.results.add items }
        shared

/-- Any number of advances, with their exchanges in order. -/
inductive Advances (finder : Finder) (live : Live) (shared : Shared) :
    List Exchange → Live → Shared → Prop where
  | refl : Advances finder live shared [] live shared
  | step {log : List Exchange} {middle next : Live} {between later : Shared}
      {exchange : Option Exchange} (before : Advances finder live shared log middle between)
      (last : Advance finder middle between exchange next later) :
      Advances finder live shared (log ++ exchange.toList) next later

theorem Advance.le {finder : Finder} {live next : Live} {shared later : Shared}
    {exchange : Option Exchange} (advance : Advance finder live shared exchange next later) :
    shared.now ≤ later.now := by
  cases advance with
  | rest => exact Nat.le_add_right ..
  | _ => exact Nat.le_refl _

theorem Advances.le {finder : Finder} {live next : Live} {shared later : Shared}
    {log : List Exchange} (advances : Advances finder live shared log next later) :
    shared.now ≤ later.now := by
  induction advances with
  | refl => exact Nat.le_refl _
  | step _ last ih => exact Nat.le_trans ih last.le

namespace Finder

variable {finder : Finder} {live : Live} {shared : Shared}

private theorem stays (finder : Finder) (live : Live) (shared : Shared) :
    Advance finder live shared none live shared :=
  .rest live 0 rfl rfl rfl id

private theorem answered?_cases {query : Query} {ending : Backend.Ending} {progress : Progress}
    (answered : finder.answered? query ending = some progress) :
    (∃ items, ending = .returns items ∧ progress = .writing items (finder.written query items)) ∨
      ∃ cause, progress = .failed cause := by
  cases ending <;> cases answered
  · exact .inl ⟨_, rfl, rfl⟩
  · exact .inr ⟨_, rfl⟩
  · exact .inr ⟨_, rfl⟩

private theorem work_advances {place : Nat} {task : Task}
    (found : live.tasks[place]? = some task) :
    Advance finder live shared (task.progress.exchange? shared)
      (finder.work place task live shared).1 (finder.work place task live shared).2 := by
  obtain ⟨before, after, split, modified⟩ := Live.split_at found
  have placed (progress : Progress) : live.withProgress place progress =
      { live with tasks := before ++ { task with progress } :: after } := by
    simp [Live.withProgress, modified]
  cases progressed : task.progress with
  | waiting =>
    by_cases given : task.isAbandoned = true
    · simpa [work, progressed, given] using stays finder live shared
    · by_cases stopped : live.isStopped = true
      · simp only [work, Live.begin, progressed, if_neg given, if_pos stopped, placed]
        exact .fail interruption split (.inl progressed)
      · simp only [work, Live.begin, progressed, if_neg given, if_neg stopped, placed]
        exact .ask split progressed rfl
  | listing course =>
    by_cases given : task.isAbandoned = true
    · simpa [work, progressed, given] using stays finder live shared
    · by_cases stopped : live.isStopped = true
      · simp only [work, progressed, if_neg given, if_pos stopped, placed]
        exact .fail interruption split (.inr ⟨course, progressed⟩)
      · cases answered : finder.answered? task.query course.ending with
        | none => simpa [work, progressed, given, stopped, answered] using stays finder live shared
        | some progress =>
          simp only [work, progressed, if_neg given, if_neg stopped, answered, placed]
          rcases answered?_cases answered with ⟨items, returned, rfl⟩ | ⟨cause, rfl⟩
          · exact .answer split progressed returned
          · exact .fail cause split (.inr ⟨course, progressed⟩)
  | writing items access =>
    -- The write is done exactly when it has nothing more to say to the store.
    cases made : access.exchange? shared.now shared.store with
    | none =>
      obtain ⟨⟨result, rfl⟩, _⟩ := Access.step_of_no_exchange made
      by_cases given : task.isAbandoned = true
      · simpa [work, progressed, given, made] using stays finder live shared
      · simp only [work, progressed, if_neg given, placed]
        exact .keep split progressed
    | some exchange =>
      have stored := (Access.step_of_exchange made).2.2
      have unfolded : finder.work place task live shared =
          (live.withProgress place (.writing items (access.step shared.now shared.store).1),
            { shared with store := exchange.apply shared.store }) := by
        rw [← stored]
        cases access with
        | done result => cases made
        | _ => simp [work, progressed]
      simp only [unfolded, placed, Progress.exchange?, made]
      exact .write split progressed made
  | finished => simpa [work, progressed] using stays finder live shared
  | failed cause => simpa [work, progressed] using stays finder live shared

private theorem fail_advances (live : Live) (error : SearchError) (shared : Shared) :
    Advance finder live shared none (live.fail error) shared := by
  refine .rest _ 0 ?_ rfl rfl ?_
  · simp [Live.work, Live.fail]
  · intro notices task member joined
    obtain ⟨old, present, rfl⟩ := List.mem_map.mp member
    simpa using notices old present (by simpa using joined)

private theorem join_advances {place : Nat} {task : Task}
    (found : live.tasks[place]? = some task) :
    Advance finder live shared none (live.join place task) shared := by
  obtain ⟨before, after, split, modified⟩ := Live.split_at found
  unfold Live.join
  split
  · exact stays finder live shared
  · split
    · exact fail_advances live .abandoned shared
    · split
      · rename_i finished
        refine .rest _ 0 ?_ rfl rfl ?_
        · simp only [Live.work, modified]
          simp [split]
        · intro notices
          exact notices.replace split (modified _) fun _ => finished
      · exact fail_advances live _ shared
      · exact stays finder live shared

theorem step_advances (finder : Finder) (event : Event) (live : Live) (shared : Shared) :
    Advance finder live shared (live.exchange? event shared) (finder.step event live shared).1
      (finder.step event live shared).2 := by
  cases event with
  | wait millis => exact .rest live millis rfl rfl rfl id
  | cancel => exact .rest _ 0 rfl rfl rfl id
  | work place =>
    cases found : live.tasks[place]? with
    | some task => simpa [step, Live.exchange?, found] using work_advances found
    | none => simpa [step, Live.exchange?, found] using stays finder live shared
  | join place =>
    cases found : live.tasks[place]? with
    | some task => simpa [step, Live.exchange?, found] using join_advances found
    | none => simpa [step, Live.exchange?, found] using stays finder live shared

end Finder

end FleetSearch.Search
