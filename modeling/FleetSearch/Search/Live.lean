import FleetSearch.Search.Plan

/-! The live phase of a search as steps of tasks that run side by side, one for each query. Any
list of events is a possible history: an event that cannot happen changes nothing. -/

namespace FleetSearch.Search

open FleetSearch.Backend (Cause Course Ending)
open FleetSearch.Cache (Access CacheError Store)
open FleetSearch.Inventory (Collection Collector)

/-- A query that a backend was asked. -/
structure Call where
  identifier : String
  backend : String
  pattern : String
deriving DecidableEq, Repr

/-- What searches share. -/
structure Shared where
  now : Nat := 0
  store : Store := {}
  /-- The queries so far, the latest one first. -/
  calls : List Call := []

namespace Shared

def callCount (shared : Shared) (backend : String) : Nat :=
  shared.calls.countP fun call => call.backend == backend

def wait (shared : Shared) (millis : Nat) : Shared :=
  { shared with now := shared.now + millis }

end Shared

/-- How far a task has come. -/
inductive Progress where
  | waiting
  | listing (course : Course)
  | writing (items : Collection) (access : Access (Except CacheError Unit))
  | finished
  | failed (cause : Cause)

/-- The task of one query. -/
structure Task where
  query : Query
  progress : Progress := .waiting
  /-- Whether the search has taken notice of the end of the task. -/
  isJoined : Bool := false
  /-- Whether the search has given up the task. -/
  isAbandoned : Bool := false

def Progress.isOver : Progress → Bool
  | .finished => true
  | .failed _ => true
  | _ => false

/-- Gives up a task that has not come to its end. -/
def Task.abandon (task : Task) : Task :=
  if task.progress.isOver then task else { task with isAbandoned := true }

/-- A search in its live phase. -/
structure Live where
  pattern : String
  tasks : List Task
  results : Collector
  isCancelled : Bool := false
  failure : Option SearchError := none

/-- What can happen. -/
inductive Event where
  /-- Time passes, in milliseconds. -/
  | wait (millis : Nat)
  | cancel
  | work (task : Nat)
  | join (task : Nat)
deriving DecidableEq, Repr

def interruption : Cause := .ofText "query cancelled"

/-- Why a query ends whose task broke down. -/
def breakdown (words : String) : Cause :=
  .ofText ("query task failed: task N panicked with message " ++ Text.quote words)

def Plan.live (plan : Plan) (pattern : String) : Live :=
  { pattern, tasks := plan.pending.map fun query => { query }, results := plan.hits }

namespace Live

/-- Whether the tasks are told to stop: by the caller, or because one of them failed. -/
def isStopped (live : Live) : Bool :=
  live.isCancelled || live.failure.isSome

/-- How the search ends, once that is decided. -/
def result? (live : Live) : Option (Except SearchError Collection) :=
  match live.failure with
  | some error => some (.error error)
  | none => if live.tasks.all Task.isJoined then some (.ok live.results.take.1) else none

def withProgress (live : Live) (place : Nat) (progress : Progress) : Live :=
  { live with tasks := live.tasks.modify place fun task => { task with progress } }

/-- A task begins: its backend is asked, unless the tasks are told to stop. -/
def begin (live : Live) (place : Nat) (task : Task) (shared : Shared) : Live × Shared :=
  if live.isStopped then (live.withProgress place (.failed interruption), shared)
  else
    let backend := task.query.backend
    let course := backend.list live.pattern (shared.callCount backend.name)
    let call : Call := ⟨task.query.identifier, backend.name, live.pattern⟩
    (live.withProgress place (.listing course), { shared with calls := call :: shared.calls })

def fail (live : Live) (error : SearchError) : Live :=
  { live with failure := some error, tasks := live.tasks.map Task.abandon }

/-- The search takes notice of the end of a task. The first failure is the failure of the search,
unless the caller has interrupted it. -/
def join (live : Live) (place : Nat) (task : Task) : Live :=
  if task.isJoined || live.failure.isSome then live
  else if task.isAbandoned then live.fail .abandoned
  else match task.progress with
    | .finished =>
      { live with tasks := live.tasks.modify place fun task => { task with isJoined := true } }
    | .failed cause =>
      live.fail (if live.isCancelled then .cancelled else .query task.query.identifier cause)
    | _ => live

end Live

namespace Finder

/-- The access that keeps an answer in the cache, if there is one. -/
def written (finder : Finder) (query : Query) (items : Collection) :
    Access (Except CacheError Unit) :=
  if finder.isCaching then
    Cache.put (some ∘ Collection.write) query.place items finder.lifetime
  else .done (.ok ())

/-- How a task goes on when its query ends, if it ever does. -/
def answered? (finder : Finder) (query : Query) : Ending → Option Progress
  | .returns items => some (.writing items (finder.written query items))
  | .fails cause => some (.failed cause)
  | .panics words => some (.failed (breakdown words))
  | .never => none

/-- A task takes its next step. A stop comes before everything else that could happen to its
query. A write that fails is passed over; one that has begun goes on even if the task is given
up. -/
def work (finder : Finder) (place : Nat) (task : Task) (live : Live) (shared : Shared) :
    Live × Shared :=
  match task.progress with
  | .waiting => if task.isAbandoned then (live, shared) else live.begin place task shared
  | .listing course =>
    if task.isAbandoned then (live, shared)
    else if live.isStopped then (live.withProgress place (.failed interruption), shared)
    else match finder.answered? task.query course.ending with
      | some progress => (live.withProgress place progress, shared)
      | none => (live, shared)
  | .writing items (.done _) =>
    if task.isAbandoned then (live, shared)
    else
      let live := live.withProgress place .finished
      ({ live with results := live.results.add items }, shared)
  | .writing items access =>
    let (access, store) := access.step shared.now shared.store
    (live.withProgress place (.writing items access), { shared with store })
  | .finished => (live, shared)
  | .failed _ => (live, shared)

def step (finder : Finder) (event : Event) (live : Live) (shared : Shared) : Live × Shared :=
  match event with
  | .wait millis => (live, shared.wait millis)
  | .cancel => ({ live with isCancelled := true }, shared)
  | .work place =>
    match live.tasks[place]? with
    | some task => finder.work place task live shared
    | none => (live, shared)
  | .join place =>
    match live.tasks[place]? with
    | some task => (live.join place task, shared)
    | none => (live, shared)

def history (finder : Finder) (events : List Event) (live : Live) (shared : Shared) :
    Live × Shared :=
  events.foldl (fun (live, shared) event => finder.step event live shared) (live, shared)

end Finder

end FleetSearch.Search
