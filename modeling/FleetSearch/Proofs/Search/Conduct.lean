import FleetSearch.Proofs.Search.Advance
import FleetSearch.Search.Timeline

/-! A search from its request to its result as one system that takes steps: the preparation one
exchange at a time, and then the tasks side by side. Any list of moves is a possible course of it,
and the search on the clock is one of them. -/

namespace FleetSearch.Search

open FleetSearch.Cache (Access Exchange)
open FleetSearch.Inventory (Collection)

/-- How far a search has come. -/
inductive Stage where
  | preparing (access : Access (Except SearchError Plan))
  | refused (error : SearchError)
  | live (live : Live)

/-- A search on its way to a result. -/
structure Run where
  finder : Finder
  request : Request
  /-- Whether the caller has interrupted it before its live phase. -/
  isCancelled : Bool := false
  stage : Stage

/-- What can happen to a search. -/
inductive Move where
  /-- The preparation takes its next step. -/
  | prepare
  | happen (event : Event)

namespace Run

/-- A search at its beginning. -/
def start (finder : Finder) (request : Request) : Run :=
  { finder, request, stage := .preparing (finder.plan request) }

/-- The preparation takes its next step; with a result it gives way to the live phase. -/
def prepare (run : Run) (shared : Shared) : Access (Except SearchError Plan) → Run × Shared
  | .done (.error error) => ({ run with stage := .refused error }, shared)
  | .done (.ok plan) =>
    let live := { plan.live run.request.pattern with isCancelled := run.isCancelled }
    ({ run with stage := .live live }, shared)
  | access =>
    let (access, store) := access.step shared.now shared.store
    ({ run with stage := .preparing access }, { shared with store })

/-- Outside of the live phase time passes, and the caller may interrupt the search. -/
def await (run : Run) (shared : Shared) : Event → Run × Shared
  | .wait millis => (run, shared.wait millis)
  | .cancel => ({ run with isCancelled := true }, shared)
  | _ => (run, shared)

/-- What a move does. -/
def step (move : Move) (run : Run) (shared : Shared) : Run × Shared :=
  match move, run.stage with
  | .prepare, .preparing access => run.prepare shared access
  | .happen event, .live live =>
    let (live, shared) := run.finder.step event live shared
    ({ run with stage := .live live }, shared)
  | .happen event, _ => run.await shared event
  | .prepare, _ => (run, shared)

/-- The exchange with the store that a move brings about. -/
def exchange? (move : Move) (run : Run) (shared : Shared) : Option Exchange :=
  match move, run.stage with
  | .prepare, .preparing access => access.exchange? shared.now shared.store
  | .happen event, .live live => live.exchange? event shared
  | _, _ => none

/-- How the search ends, once that is decided. -/
def result? (run : Run) : Option (Except SearchError Collection) :=
  match run.stage with
  | .preparing _ => none
  | .refused error => some (.error error)
  | .live live => live.result?

/-- What a move can do, with the exchange that it brings about. -/
inductive Takes (run : Run) (shared : Shared) : Option Exchange → Run → Shared → Prop where
  | rest : Takes run shared none run shared
  /-- Before its live phase, or without one, a search lets time pass or hears of an interruption. -/
  | await (settled : ∀ live, run.stage ≠ .live live) (isCancelled : Bool) (millis : Nat) :
      Takes run shared none { run with isCancelled } (shared.wait millis)
  | prepare {access : Access (Except SearchError Plan)} {exchange : Exchange}
      (staged : run.stage = .preparing access)
      (made : access.exchange? shared.now shared.store = some exchange) :
      Takes run shared (some exchange)
        { run with stage := .preparing (access.step shared.now shared.store).1 }
        { shared with store := exchange.apply shared.store }
  | refuse {error : SearchError} (staged : run.stage = .preparing (.done (.error error))) :
      Takes run shared none { run with stage := .refused error } shared
  | settle {plan : Plan} (staged : run.stage = .preparing (.done (.ok plan))) :
      Takes run shared none
        { run with
          stage := .live { plan.live run.request.pattern with isCancelled := run.isCancelled } }
        shared
  | advance {live next : Live} {later : Shared} {exchange : Option Exchange}
      (staged : run.stage = .live live)
      (advanced : Advance run.finder live shared exchange next later) :
      Takes run shared exchange { run with stage := .live next } later

private theorem prepare_takes {run : Run} {access : Access (Except SearchError Plan)}
    (staged : run.stage = .preparing access) (shared : Shared) :
    run.Takes shared (access.exchange? shared.now shared.store) (run.prepare shared access).1
      (run.prepare shared access).2 := by
  cases made : access.exchange? shared.now shared.store with
  | none =>
    obtain ⟨⟨result, rfl⟩, _⟩ := Access.step_of_no_exchange made
    cases result with
    | error error => exact .refuse staged
    | ok plan => exact .settle staged
  | some exchange =>
    have unfolded : run.prepare shared access =
        ({ run with stage := .preparing (access.step shared.now shared.store).1 },
          { shared with store := exchange.apply shared.store }) := by
      rw [← (Access.step_of_exchange made).2.2]
      cases access with
      | done result => cases made
      | _ => rfl
    rw [unfolded]
    exact .prepare staged made

theorem step_takes (move : Move) (run : Run) (shared : Shared) :
    run.Takes shared (run.exchange? move shared) (run.step move shared).1
      (run.step move shared).2 := by
  cases move with
  | prepare =>
    cases staged : run.stage with
    | preparing access => simpa [step, exchange?, staged] using prepare_takes staged shared
    | _ => simpa [step, exchange?, staged] using Takes.rest
  | happen event =>
    cases staged : run.stage with
    | live live =>
      have advanced := Takes.advance staged (run.finder.step_advances event live shared)
      simpa [step, exchange?, staged] using advanced
    | _ =>
      simp only [step, exchange?, staged]
      have settled : ∀ live, run.stage ≠ .live live := by simp [staged]
      cases event with
      | wait millis => exact .await settled run.isCancelled millis
      | cancel => exact .await settled true 0
      | _ => exact .rest

theorem Takes.keeps {run next : Run} {shared later : Shared} {exchange : Option Exchange}
    (takes : run.Takes shared exchange next later) :
    next.finder = run.finder ∧ next.request = run.request := by
  cases takes <;> exact ⟨rfl, rfl⟩

end Run

/-- A search comes this far with these exchanges. -/
inductive Reaches (finder : Finder) (request : Request) (shared : Shared) :
    List Exchange → Run → Shared → Prop where
  | start : Reaches finder request shared [] (.start finder request) shared
  | step {log : List Exchange} {run : Run} {between : Shared} (move : Move)
      (before : Reaches finder request shared log run between) :
      Reaches finder request shared (log ++ (run.exchange? move between).toList)
        (run.step move between).1 (run.step move between).2

/-- Where a search stands: a preparation follows the plan, and a live phase follows a plan that
was made. -/
inductive Stands (finder : Finder) (request : Request) (shared : Shared) (log : List Exchange)
    (now : Shared) : Stage → Prop where
  | preparing {access : Access (Except SearchError Plan)}
      (led : (finder.plan request).Leads log access)
      (performed : Exchange.Performed shared.now shared.store log now.now)
      (stored : now.store = Exchange.after shared.store log) (calls : now.calls = shared.calls) :
      Stands finder request shared log now (.preparing access)
  | refused {error : SearchError} (led : (finder.plan request).Leads log (.done (.error error)))
      (performed : Exchange.Performed shared.now shared.store log now.now)
      (stored : now.store = Exchange.after shared.store log) (calls : now.calls = shared.calls) :
      Stands finder request shared log now (.refused error)
  | live {first second : List Exchange} {plan : Plan} {live : Live} {middle : Shared}
      {isCancelled : Bool} (split : log = first ++ second)
      (led : (finder.plan request).Leads first (.done (.ok plan)))
      (performed : Exchange.Performed shared.now shared.store first middle.now)
      (stored : middle.store = Exchange.after shared.store first)
      (calls : middle.calls = shared.calls)
      (advances : Advances finder { plan.live request.pattern with isCancelled } middle second
        live now) :
      Stands finder request shared log now (.live live)

namespace Reaches

variable {finder : Finder} {request : Request} {shared later : Shared} {log : List Exchange}
  {run : Run}

theorem stands (reached : Reaches finder request shared log run later) :
    (run.finder = finder ∧ run.request = request) ∧
      Stands finder request shared log later run.stage := by
  -- The log of the preparation is closed once there is a plan; what follows belongs to the tasks.
  induction reached with
  | start => exact ⟨⟨rfl, rfl⟩, .preparing .refl (Nat.le_refl _) rfl rfl⟩
  | @step log run between move before ih =>
    obtain ⟨⟨sameFinder, sameRequest⟩, stands⟩ := ih
    have takes := run.step_takes move between
    refine ⟨⟨takes.keeps.1.trans sameFinder, takes.keeps.2.trans sameRequest⟩, ?_⟩
    generalize run.exchange? move between = exchange, (run.step move between).1 = next,
      (run.step move between).2 = later at takes
    cases takes with
    | rest => simpa using stands
    | await settled isCancelled millis =>
      have wait : between.now ≤ (between.wait millis).now := Nat.le_add_right ..
      rw [Option.toList_none, List.append_nil]
      generalize run.stage = stage at stands settled
      cases stands with
      | preparing led performed stored calls =>
        exact .preparing led (performed.wait wait) stored calls
      | refused led performed stored calls => exact .refused led (performed.wait wait) stored calls
      | live => exact absurd rfl (settled _)
    | @prepare access exchange staged made =>
      rw [staged] at stands
      obtain ⟨hears, asked, _⟩ := Access.step_of_exchange made
      cases stands with
      | preparing led performed stored calls =>
        refine .preparing (led.trans (.step hears .refl)) (performed.snoc (stored ▸ asked)) ?_ calls
        simp [Exchange.after, stored]
    | refuse staged =>
      rw [staged] at stands
      cases stands with
      | preparing led performed stored calls =>
        exact .refused (by simpa using led) (by simpa using performed) (by simpa using stored) calls
    | settle staged =>
      rw [staged] at stands
      cases stands with
      | preparing led performed stored calls =>
        rw [sameRequest]
        exact .live rfl led performed stored calls .refl
    | advance staged advanced =>
      rw [staged] at stands
      cases stands with
      | live split led performed stored calls advances =>
        have advanced := advances.step (sameFinder ▸ advanced)
        exact .live (by rw [split, List.append_assoc]) led performed stored calls advanced

/-- A preparation can take all its steps at one moment. -/
theorem run_access {access : Access (Except SearchError Plan)}
    (reached : Reaches finder request shared log { run with stage := .preparing access } later) :
    ∃ log, Reaches finder request shared log
      { run with stage := .preparing (.done (access.run later.now later.store).1) }
      { later with store := (access.run later.now later.store).2 } := by
  induction access generalizing log later with
  | done result => exact ⟨log, reached⟩
  | clock next ih => exact ih later.now (reached.step .prepare)
  | select place next ih => exact ih _ (reached.step .prepare)
  | insert place row next ih => exact ih _ (reached.step .prepare)
  | erase place next ih => exact ih _ (reached.step .prepare)
  | eraseExpired moment next ih => exact ih _ (reached.step .prepare)

private theorem run_advance {live : Live} (events : List Event)
    (reached : Reaches finder request shared log { run with stage := .live live } later) :
    ∃ log, Reaches finder request shared log
      { run with stage := .live (run.finder.advance events (live, later)).1 }
      (run.finder.advance events (live, later)).2 := by
  induction events generalizing log live later with
  | nil => exact ⟨log, reached⟩
  | cons event rest ih =>
    unfold Finder.advance
    split
    · exact ⟨log, reached⟩
    · exact ih (reached.step (.happen event))

end Reaches

/-- The search on the clock is one of the courses that a search can take. -/
theorem Finder.find_reaches {finder : Finder} {request : Request} {cancelAt : Option Nat}
    {shared later : Shared} {result : Except SearchError Collection}
    (found : finder.find request cancelAt shared = (some result, later)) :
    ∃ log run, Reaches finder request shared log run later ∧ run.result? = some result := by
  have started : Reaches finder request shared []
      { Run.start finder request with stage := .preparing (finder.plan request) } shared := .start
  obtain ⟨log, prepared⟩ := started.run_access
  have settled := prepared.step .prepare
  unfold Finder.find at found
  cases planned : (finder.plan request).run shared.now shared.store with
  | mk outcome store =>
    simp only [planned] at found settled
    cases outcome with
    | error error =>
      cases found
      exact ⟨_, _, settled, rfl⟩
    | ok plan =>
      obtain ⟨ended, same⟩ := Prod.mk.inj found
      obtain ⟨_, begun⟩ := settled.run_advance ((plan.live request.pattern).opening cancelAt)
      obtain ⟨_, advanced⟩ := begun.run_advance (Live.timeline _ cancelAt)
      subst same
      exact ⟨_, _, advanced, ended⟩

end FleetSearch.Search
