import FleetSearch.Search.Live

/-! Searches on the clock: the one history in which every query takes the time it says. Of things
that happen at one moment the interruption comes first, and then the tasks in order. -/

namespace FleetSearch.Search

open FleetSearch.Backend (Ending)
open FleetSearch.Inventory (Collection)

/-- The events from the end of a query on: the answer, the clock, the write, the addition to the
results, and the notice that the search takes. -/
def completion (place : Nat) : List Event :=
  List.replicate 4 (.work place) ++ [.join place]

/-- Events at moments, in order, with the time between them. -/
def timed (now : Nat) : List (Nat × List Event) → List Event
  | [] => []
  | (moment, events) :: rest => .wait (moment - now) :: events ++ timed moment rest

namespace Live

def answerMoment? (task : Task) : Option Nat :=
  match task.progress with
  | .listing course =>
    match course.ending with
    | .never => none
    | _ => some course.delay
  | _ => none

/-- The answers to come, with their moments. -/
def answers (live : Live) : List (Nat × List Event) :=
  live.tasks.zipIdx.filterMap fun (task, place) =>
    (answerMoment? task).map fun moment => (moment, completion place)

/-- The interruption with all that follows from it at once. -/
def interruptions (live : Live) (cancelAt : Option Nat) : List (Nat × List Event) :=
  cancelAt.toList.map fun moment =>
    (moment, .cancel :: (List.range live.tasks.length).flatMap completion)

def timeline (live : Live) (cancelAt : Option Nat) : List Event :=
  timed 0 ((live.interruptions cancelAt ++ live.answers).mergeSort fun first second =>
    decide (first.1 ≤ second.1))

/-- The events at the beginning: every task begins. -/
def opening (live : Live) (cancelAt : Option Nat) : List Event :=
  (if cancelAt = some 0 then [.cancel] else []) ++ (List.range live.tasks.length).map .work

end Live

namespace Finder

/-- Goes through events until the result is decided. -/
def advance (finder : Finder) : List Event → Live × Shared → Live × Shared
  | [], state => state
  | event :: rest, (live, shared) =>
    if live.result?.isSome then (live, shared)
    else finder.advance rest (finder.step event live shared)

/-- Searches for instances, with an interruption after some milliseconds or without one. There is
no result where a query never ends. -/
def find (finder : Finder) (request : Request) (cancelAt : Option Nat) (shared : Shared) :
    Option (Except SearchError Collection) × Shared :=
  let (planned, store) := (finder.plan request).run shared.now shared.store
  let shared := { shared with store }
  match planned with
  | .error error => (some (.error error), shared)
  | .ok plan =>
    let live := plan.live request.pattern
    let begun := finder.advance (live.opening cancelAt) (live, shared)
    let (live, shared) := finder.advance (begun.1.timeline cancelAt) begun
    (live.result?, shared)

end Finder

end FleetSearch.Search
