import FleetSearch.Proofs.Search.Conduct
import FleetSearch.Proofs.Search.Outline
import FleetSearch.Proofs.Search.Preparation

/-! A search with a cache that may answer anything: whatever it holds at each step, whoever else
uses it, and whether or not it can be read and written at all. -/

namespace FleetSearch.Cache

/-- What holds of an access if it holds of what remains after the next step, whatever the store
answers, holds of every access. -/
theorem Access.step_induction {α : Type} {motive : Access α → Prop}
    (next : ∀ access, (∀ now store exchange, access.exchange? now store = some exchange →
      motive (access.step now store).1) → motive access) (access : Access α) : motive access := by
  induction access with
  | done result => exact next _ fun _ _ _ made => by cases made
  | clock rest ih => exact next _ fun now _ _ _ => ih now
  | select place rest ih => exact next _ fun _ _ _ _ => ih _
  | insert place row rest ih => exact next _ fun _ _ _ _ => ih _
  | erase place rest ih => exact next _ fun _ _ _ _ => ih _
  | eraseExpired moment rest ih => exact next _ fun _ _ _ _ => ih _

end FleetSearch.Cache

namespace FleetSearch.Search

open FleetSearch.Cache (Access Exchange Place Reads Store)
open FleetSearch.Inventory (Collection)

/-- What the reads of a log give: a row that has not expired, with a text that spells a
collection. -/
def hits : List Exchange → List (Place × Collection)
  | .select place (.ok (some row)) :: .clock now :: rest =>
    if row.isExpired now then hits rest
    else match Cache.spelled Collection.decode row.text with
      | .ok items => (place, items) :: hits rest
      | .error _ => hits rest
  | _ :: rest => hits rest
  | [] => []

theorem hits_of_reads {place : Place} {log rest : List Exchange}
    {answer : Except Cache.CacheError Collection}
    (reads : Reads Collection.decode place log answer) :
    hits (log ++ rest) = (answer.toOption.map (place, ·)).toList ++ hits rest := by
  cases reads with
  | failed => simp [hits, Except.toOption]
  | absent => simp [hits, Except.toOption]
  | expired due => simp [hits, due, Except.toOption]
  | @inForce row now valid =>
    cases spelling : Cache.spelled Collection.decode row.text <;>
      simp [hits, valid, spelling, Except.toOption]

theorem hits_of_not_select {log : List Exchange}
    (silent : ∀ place reply, Exchange.select place reply ∉ log) : hits log = [] := by
  induction log with
  | nil => rfl
  | cons exchange rest ih =>
    have tail := ih fun place reply member => silent place reply (List.mem_cons_of_mem _ member)
    cases exchange with
    | select place reply => exact absurd List.mem_cons_self (silent place reply)
    | _ => simpa [hits] using tail

theorem hits_of_entries {finder : Finder} {request : Request} {entries : List Entry}
    {rest : List Exchange} (sound : ∀ entry ∈ entries, entry.Sound finder request)
    (silent : ∀ place reply, Exchange.select place reply ∉ rest) :
    hits (entries.flatMap Entry.log ++ rest) = entries.filterMap fun entry =>
      entry.found.map ((entry.query request.pattern).place, ·) := by
  induction entries with
  | nil => exact hits_of_not_select silent
  | cons entry others ih =>
    have tail := ih fun entry member => sound entry (List.mem_cons_of_mem _ member)
    have first := sound entry List.mem_cons_self
    rw [List.flatMap_cons, List.append_assoc]
    cases reading : finder.readsCache request with
    | true =>
      obtain ⟨answer, reads, found⟩ := first.read reading
      rw [hits_of_reads reads, tail, List.filterMap_cons, found]
      cases answer <;> simp [Except.toOption]
    | false =>
      obtain ⟨unlogged, unfound⟩ := first.unread reading
      rw [unlogged, List.nil_append, tail]
      simp [unfound]

/-- The error of an outcome that is one. -/
def errorOf : Except SearchError Plan → Option SearchError
  | .error error => some error
  | .ok _ => none

namespace Finder

/-- Why the preparation of some identifiers fails, if it does. -/
def refusalFrom (finder : Finder) (seen : List TargetKey) : List String → Option SearchError
  | [] => none
  | identifier :: rest =>
    match finder.resolver.target finder.registry identifier with
    | .error error => some (.unknownBackend error)
    | .ok target =>
      let key : TargetKey := (target.descriptor.name, target.part)
      if key ∈ seen then finder.refusalFrom seen rest
      else match finder.instantiate identifier target with
        | .error error => some error
        | .ok _ => finder.refusalFrom (key :: seen) rest

def refusal? (finder : Finder) (request : Request) : Option SearchError :=
  match request.identifiers with
  | [] => some .noBackends
  | identifiers => finder.refusalFrom [] identifiers

variable {finder : Finder} {request : Request} {seen : List TargetKey}

theorem refusalFrom_nil : finder.refusalFrom seen [] = none := rfl

theorem refusalFrom_cons {identifier : String} {rest : List String} :
    finder.refusalFrom seen (identifier :: rest) =
      match finder.resolver.target finder.registry identifier with
      | .error error => some (.unknownBackend error)
      | .ok target =>
        if (target.descriptor.name, target.part) ∈ seen then finder.refusalFrom seen rest
        else match finder.instantiate identifier target with
          | .error error => some error
          | .ok _ => finder.refusalFrom ((target.descriptor.name, target.part) :: seen) rest :=
  rfl

private theorem refusalFrom_of_leads {plan : Plan} {identifiers : List String}
    {log : List Exchange} {outcome : Except SearchError Plan}
    (leads : (finder.planFrom request seen plan identifiers).Leads log (.done outcome)) :
    finder.refusalFrom seen identifiers = errorOf outcome := by
  induction identifiers generalizing seen plan log with
  | nil =>
    cases leads.of_done.2
    rfl
  | cons identifier rest ih =>
    unfold planFrom at leads
    rw [refusalFrom_cons]
    cases aimed : finder.resolver.target finder.registry identifier with
    | error error =>
      simp only [aimed] at leads
      cases leads.of_done.2
      rfl
    | ok target =>
      simp only [aimed] at leads ⊢
      by_cases earlier : (target.descriptor.name, target.part) ∈ seen
      · simp only [earlier, ↓reduceIte] at leads ⊢
        exact ih leads
      · simp only [earlier, ↓reduceIte] at leads ⊢
        cases made : finder.instantiate identifier target with
        | error error =>
          simp only [made] at leads
          cases leads.of_done.2
          rfl
        | ok backend =>
          simp only [made] at leads
          obtain ⟨_, _, _, _, others, _⟩ := leads.of_bind
          exact ih others

/-- Whether and why a preparation fails does not depend on what it hears from the cache. -/
theorem refusal?_of_leads {log : List Exchange} {outcome : Except SearchError Plan}
    (leads : (finder.plan request).Leads log (.done outcome)) :
    finder.refusal? request = errorOf outcome := by
  unfold plan at leads
  unfold refusal?
  cases listed : request.identifiers with
  | nil =>
    simp only [listed] at leads
    cases leads.of_done.2
    rfl
  | cons identifier rest =>
    simp only [listed] at leads
    exact refusalFrom_of_leads leads

end Finder

/-- The clock and the store that a search meets at each of its steps. -/
structure Situation where
  now : Nat → Nat
  store : Nat → Store

/-- What a search shares with others at one of its steps. -/
def Situation.shared (situation : Situation) (count : Nat) (calls : List Call) : Shared :=
  ⟨situation.now count, situation.store count, calls⟩

/-- What a move shows to somebody who does not see the cache. -/
def Run.shown (run : Run) : Move → List Event
  | .prepare => []
  | .happen event =>
    match run.stage with
    | .live live => if live.isSilent event then [] else [event]
    | _ => if event = .cancel then [event] else []

/-- Whether the preparation of a search is over. -/
def Run.IsSettled (run : Run) : Prop :=
  ∀ access, run.stage ≠ .preparing access

theorem Run.prepare_of_exchange (run : Run) {shared : Shared}
    {access : Access (Except SearchError Plan)} {exchange : Exchange}
    (made : access.exchange? shared.now shared.store = some exchange) :
    run.prepare shared access =
      ({ run with stage := .preparing (access.step shared.now shared.store).1 },
        { shared with store := (access.step shared.now shared.store).2 }) := by
  cases access with
  | done result => cases made
  | _ => rfl

/-- A search comes this far in a situation: the number of its steps, the events in order, the
exchanges with the cache, and the calls. -/
inductive Proceeds (finder : Finder) (request : Request) (earlier : List Call)
    (situation : Situation) :
    Nat → List Event → List Exchange → Run → List Call → Prop where
  | start : Proceeds finder request earlier situation 0 [] [] (.start finder request) earlier
  | step {count : Nat} {order : List Event} {log : List Exchange} {run : Run} {calls : List Call}
      (move : Move) (before : Proceeds finder request earlier situation count order log run calls) :
      Proceeds finder request earlier situation (count + 1) (order ++ run.shown move)
        (log ++ (run.exchange? move (situation.shared count calls)).toList)
        (run.step move (situation.shared count calls)).1
        (run.step move (situation.shared count calls)).2.calls

/-- What a search without a cache comes to from a plan by some events. -/
def Plan.played (finder : Finder) (plan : Plan) (pattern : String) (earlier : List Call)
    (order : List Event) : Live × Shared :=
  finder.withoutCache.history order (plan.live pattern) { calls := earlier }

/-- Whether before the live phase there were only interruptions, and whether there was one. -/
def Warned (order : List Event) (isCancelled : Bool) : Prop :=
  (∀ event ∈ order, event = .cancel) ∧ (isCancelled = true ↔ order ≠ [])

/-- Whether writes keep answers in their places. -/
def KeepsAnswers (finder : Finder) (live : Live) : Prop :=
  ∀ query items access, (query, .writing items access) ∈ live.work →
    ∃ left, finder.Writing query items left access

/-- Where a search stands: a preparation follows the plan, and a live phase is what the plan comes
to by the events, but for its writes. -/
inductive Recounts (finder : Finder) (request : Request) (earlier : List Call)
    (order : List Event) : List Exchange → Bool → Stage → List Call → Prop where
  | preparing {log : List Exchange} {isCancelled : Bool} {access : Access (Except SearchError Plan)}
      (led : (finder.plan request).Leads log access) (warned : Warned order isCancelled) :
      Recounts finder request earlier order log isCancelled (.preparing access) earlier
  | refused {log : List Exchange} {isCancelled : Bool} {error : SearchError}
      (led : (finder.plan request).Leads log (.done (.error error)))
      (warned : Warned order isCancelled) :
      Recounts finder request earlier order log isCancelled (.refused error) earlier
  | live {first second : List Exchange} {isCancelled : Bool} {plan : Plan} {live : Live}
      {calls : List Call} (led : (finder.plan request).Leads first (.done (.ok plan)))
      (unread : ∀ place reply, Exchange.select place reply ∉ second)
      (keeps : KeepsAnswers finder live)
      (played : live.outline = (plan.played finder request.pattern earlier order).1)
      (called : calls = (plan.played finder request.pattern earlier order).2.calls)
      (timeless : ∀ millis, .wait millis ∉ order) :
      Recounts finder request earlier order (first ++ second) isCancelled (.live live) calls

theorem Plan.played_snoc (finder : Finder) (plan : Plan) (pattern : String) (earlier : List Call)
    (order : List Event) (event : Event) :
    plan.played finder pattern earlier (order ++ [event]) =
      finder.withoutCache.step event (plan.played finder pattern earlier order).1
        (plan.played finder pattern earlier order).2 := by
  simp [Plan.played, Finder.history]

private theorem history_of_cancel {order : List Event} (cancels : ∀ event ∈ order, event = .cancel)
    (finder : Finder) (live : Live) (shared : Shared) :
    finder.history order live shared =
      ({ live with isCancelled := live.isCancelled || !order.isEmpty }, shared) := by
  induction order generalizing live with
  | nil => simp [Finder.history]
  | cons event rest ih =>
    obtain rfl := cancels event List.mem_cons_self
    have tail := ih (fun event member => cancels event (List.mem_cons_of_mem _ member))
      { live with isCancelled := true }
    simpa [Finder.history, Finder.step] using tail

/-- Interruptions before the live phase are interruptions of it. -/
theorem Plan.played_of_warned {order : List Event} {isCancelled : Bool}
    (warned : Warned order isCancelled) (finder : Finder) (plan : Plan) (pattern : String)
    (earlier : List Call) :
    plan.played finder pattern earlier order =
      ({ plan.live pattern with isCancelled }, { calls := earlier }) := by
  have flag : (!order.isEmpty) = isCancelled := by
    rw [Bool.eq_iff_iff, warned.2]
    simp
  simpa [Plan.played, Plan.live, flag] using
    history_of_cancel warned.1 finder.withoutCache (plan.live pattern) { calls := earlier }

theorem Plan.outline_live (plan : Plan) (pattern : String) (isCancelled : Bool) :
    Live.outline { plan.live pattern with isCancelled } =
      { plan.live pattern with isCancelled } := by
  simp [Live.outline, Plan.live, Task.outline, Progress.outline]

theorem KeepsAnswers.of_plan (finder : Finder) (plan : Plan) (pattern : String)
    (isCancelled : Bool) : KeepsAnswers finder { plan.live pattern with isCancelled } := by
  intro query items access member
  rw [Live.work_of_plan] at member
  simp at member

private theorem KeepsAnswers.replace {finder : Finder} {live next : Live}
    {before after : List Task} {task : Task} {progress : Progress}
    (keeps : KeepsAnswers finder live) (split : live.tasks = before ++ task :: after)
    (changed : next.tasks = before ++ { task with progress } :: after)
    (writing : ∀ items access, progress = .writing items access →
      ∃ left, finder.Writing task.query items left access) : KeepsAnswers finder next := by
  intro query items access member
  obtain ⟨other, present, same⟩ := List.mem_map.mp member
  rw [changed, List.mem_append, List.mem_cons] at present
  rcases present with early | rfl | late
  · exact keeps query items access (same ▸ List.mem_map_of_mem (by simp [split, early]))
  · obtain ⟨rfl, rfl⟩ := Prod.mk.inj same
    exact writing items access rfl
  · exact keeps query items access (same ▸ List.mem_map_of_mem (by simp [split, late]))

/-- Writes go on keeping answers, and nothing is looked up. -/
theorem KeepsAnswers.advance {finder : Finder} {live next : Live} {shared later : Shared}
    {exchange : Option Exchange} (keeps : KeepsAnswers finder live)
    (advanced : Advance finder live shared exchange next later) :
    KeepsAnswers finder next ∧ ∀ place reply, exchange ≠ some (.select place reply) := by
  cases advanced with
  | rest next millis work => exact ⟨by rwa [KeepsAnswers, work], by simp⟩
  | ask split waiting asked => exact ⟨keeps.replace split rfl (by simp), by simp⟩
  | fail cause split unanswered => exact ⟨keeps.replace split rfl (by simp), by simp⟩
  | @answer before after task course items split listing returned =>
    refine ⟨keeps.replace split rfl ?_, by simp⟩
    rintro _ _ ⟨⟩
    obtain ⟨left, _, writing⟩ := Finder.Writing.written finder task.query items
    exact ⟨left, writing⟩
  | @write before after task items access exchange split writing made =>
    have present : (task.query, Progress.writing items access) ∈ live.work :=
      List.mem_map.mpr ⟨task, by simp [split], by rw [writing]⟩
    obtain ⟨left, keeping⟩ := keeps _ _ _ present
    obtain ⟨⟨rest, next, _⟩, kind⟩ := keeping.step made
    refine ⟨keeps.replace split rfl ?_, ?_⟩
    · rintro _ _ ⟨⟩
      exact ⟨rest, next⟩
    · rintro place reply ⟨⟩
      rcases kind with ⟨moment, impossible⟩ | ⟨moment, reply, impossible⟩ <;> cases impossible
  | keep split written => exact ⟨keeps.replace split rfl (by simp), by simp⟩

namespace Proceeds

variable {finder : Finder} {request : Request} {earlier calls : List Call}
  {situation : Situation} {count : Nat} {order : List Event} {log : List Exchange} {run : Run}

private theorem recounts_prepare {access : Access (Except SearchError Plan)} (shared : Shared)
    (same : run.request = request) (staged : run.stage = .preparing access)
    (led : (finder.plan request).Leads log access) (warned : Warned order run.isCancelled) :
    Recounts finder request shared.calls order (log ++ (run.exchange? .prepare shared).toList)
      (run.step .prepare shared).1.isCancelled (run.step .prepare shared).1.stage
      (run.step .prepare shared).2.calls := by
  simp only [Run.step, Run.exchange?, staged]
  cases made : access.exchange? shared.now shared.store with
  | none =>
    obtain ⟨⟨outcome, rfl⟩, _⟩ := Access.step_of_no_exchange made
    cases outcome with
    | error error => exact .refused (by simpa using led) warned
    | ok plan =>
      have played := plan.played_of_warned warned finder request.pattern shared.calls
      refine .live led (by simp) (.of_plan finder plan _ _) ?_ (by rw [played]; rfl) ?_
      · rw [played, same]
        exact plan.outline_live request.pattern run.isCancelled
      · intro millis waits
        cases warned.1 _ waits
  | some exchange =>
    rw [run.prepare_of_exchange made]
    exact .preparing (led.trans (.step (Access.step_of_exchange made).1 .refl)) warned

private theorem recounts_event {live : Live} (event : Event) (shared : Shared)
    (same : run.finder = finder) (staged : run.stage = .live live)
    (recounts : Recounts finder request earlier order log run.isCancelled (.live live)
      shared.calls) :
    Recounts finder request earlier (order ++ run.shown (.happen event))
      (log ++ (run.exchange? (.happen event) shared).toList)
      (run.step (.happen event) shared).1.isCancelled (run.step (.happen event) shared).1.stage
      (run.step (.happen event) shared).2.calls := by
  subst same
  simp only [Run.step, Run.exchange?, Run.shown, staged]
  cases recounts with
  | @live first second _ plan _ _ led unread keeps played called timeless =>
    obtain ⟨keeps, unasked⟩ := keeps.advance (run.finder.step_advances event live shared)
    rw [List.append_assoc]
    have unread : ∀ place reply,
        Exchange.select place reply ∉ second ++ (live.exchange? event shared).toList := by
      intro place reply member
      rcases List.mem_append.mp member with old | new
      · exact unread place reply old
      · exact unasked place reply (by simpa using new)
    cases silent : live.isSilent event with
    | true =>
      obtain ⟨outline, calls⟩ := run.finder.step_silent silent
      rw [if_pos rfl, List.append_nil]
      exact .live led unread keeps (outline.trans played) (calls.trans called) timeless
    | false =>
      obtain ⟨outline, calls⟩ := run.finder.step_visible silent called.symm
      rw [if_neg (by simp)]
      refine .live led unread keeps ?_ ?_ ?_
      · rw [outline, Plan.played_snoc, played]
      · rw [calls, Plan.played_snoc, played]
      · intro millis member
        rcases List.mem_append.mp member with old | new
        · exact timeless millis old
        · obtain rfl := List.mem_singleton.mp new
          cases silent

private theorem warned_await (event : Event) (shared : Shared)
    (settled : ∀ live, run.stage ≠ .live live) (warned : Warned order run.isCancelled) :
    run.step (.happen event) shared = run.await shared event ∧
      Warned (order ++ run.shown (.happen event)) (run.await shared event).1.isCancelled ∧
      (run.await shared event).1.stage = run.stage ∧
      (run.await shared event).2.calls = shared.calls ∧
      run.exchange? (.happen event) shared = none := by
  have shown : run.shown (.happen event) = if event = .cancel then [event] else [] := by
    cases staged : run.stage with
    | live live => exact absurd staged (settled live)
    | _ => simp [Run.shown, staged]
  rw [shown]
  have stepped : run.step (.happen event) shared = run.await shared event ∧
      run.exchange? (.happen event) shared = none := by
    cases staged : run.stage with
    | live live => exact absurd staged (settled live)
    | _ => simp [Run.step, Run.exchange?, staged]
  refine ⟨stepped.1, ?_, ?_, ?_, stepped.2⟩
  · obtain ⟨cancels, flag⟩ := warned
    cases event with
    | cancel => exact ⟨by simpa [or_imp, forall_and] using cancels, by simp [Run.await]⟩
    | _ => simpa [Run.await] using ⟨cancels, flag⟩
  · cases event <;> rfl
  · cases event <;> rfl

/-- However far a search has come, it stands there. -/
theorem recounts (proceeds : Proceeds finder request earlier situation count order log run calls) :
    (run.finder = finder ∧ run.request = request) ∧
      Recounts finder request earlier order log run.isCancelled run.stage calls := by
  induction proceeds with
  | start => exact ⟨⟨rfl, rfl⟩, .preparing .refl (by simp [Warned, Run.start])⟩
  | @step count order log run calls move before ih =>
    obtain ⟨⟨sameFinder, sameRequest⟩, recounts⟩ := ih
    have takes := run.step_takes move (situation.shared count calls)
    refine ⟨⟨takes.keeps.1.trans sameFinder, takes.keeps.2.trans sameRequest⟩, ?_⟩
    cases move with
    | prepare =>
      rw [show run.shown .prepare = [] from rfl, List.append_nil]
      cases staged : run.stage with
      | preparing access =>
        rw [staged] at recounts
        cases recounts with
        | preparing led warned =>
          exact recounts_prepare (situation.shared count earlier) sameRequest staged led warned
      | _ => simpa [Run.step, Run.exchange?, staged] using staged ▸ recounts
    | happen event =>
      cases staged : run.stage with
      | live live => exact recounts_event event _ sameFinder staged (staged ▸ recounts)
      | preparing access =>
        rw [staged] at recounts
        cases recounts with
        | preparing led warned =>
          obtain ⟨stepped, warned, stays, calls, silent⟩ :=
            warned_await event (situation.shared count earlier) (by simp [staged]) warned
          rw [stepped, silent, stays, calls, staged]
          exact .preparing (by simpa using led) warned
      | refused error =>
        rw [staged] at recounts
        cases recounts with
        | refused led warned =>
          obtain ⟨stepped, warned, stays, calls, silent⟩ :=
            warned_await event (situation.shared count earlier) (by simp [staged]) warned
          rw [stepped, silent, stays, calls, staged]
          exact .refused (by simpa using led) warned

theorem happen {live : Live}
    (proceeds : Proceeds finder request earlier situation count order log run calls)
    (staged : run.stage = .live live) (event : Event) :
    ∃ log, Proceeds finder request earlier situation (count + 1)
      (order ++ if live.isSilent event then [] else [event]) log
      { run with
        stage := .live (run.finder.step event live (situation.shared count calls)).1 }
      (run.finder.step event live (situation.shared count calls)).2.calls := by
  have stepped := proceeds.step (.happen event)
  simp only [Run.step, Run.shown, staged] at stepped
  exact ⟨_, stepped⟩

/-- Only the steps that were taken count. -/
theorem congr {other : Situation}
    (proceeds : Proceeds finder request earlier situation count order log run calls)
    (agree : ∀ step < count, situation.now step = other.now step ∧
      situation.store step = other.store step) :
    Proceeds finder request earlier other count order log run calls := by
  induction proceeds with
  | start => exact .start
  | @step count order log run calls move before ih =>
    have met : situation.shared count calls = other.shared count calls := by
      obtain ⟨now, store⟩ := agree count (Nat.lt_succ_self count)
      simp [Situation.shared, now, store]
    rw [met]
    exact (ih fun step early => agree step (Nat.lt_succ_of_lt early)).step move

end Proceeds

/-- A search alone with its store is in one of the situations. -/
theorem Reaches.proceeds {finder : Finder} {request : Request} {shared later : Shared}
    {log : List Exchange} {run : Run} (reached : Reaches finder request shared log run later) :
    ∃ situation count order,
      Proceeds finder request shared.calls situation count order log run later.calls := by
  induction reached with
  | start => exact ⟨⟨fun _ => 0, fun _ => {}⟩, 0, [], .start⟩
  | @step log run between move before ih =>
    obtain ⟨situation, count, order, proceeds⟩ := ih
    let next : Situation := ⟨Function.update situation.now count between.now,
      Function.update situation.store count between.store⟩
    have same : Proceeds finder request shared.calls next count order log run between.calls :=
      proceeds.congr fun step early => by simp [next, Nat.ne_of_lt early]
    have met : next.shared count between.calls = between := by
      simp [Situation.shared, next]
    exact ⟨next, count + 1, _, met ▸ same.step move⟩

end FleetSearch.Search
