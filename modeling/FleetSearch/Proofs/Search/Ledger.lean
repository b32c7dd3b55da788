import Mathlib.Data.List.Nodup
import FleetSearch.Proofs.Search.Advance

/-! The ledger of a live phase. Whatever the order of events, the results hold the hits and one
account for every finished query, and calls and writes are made for pending queries alone, at most
one of each for each. -/

namespace FleetSearch.Search

open FleetSearch.Cache (Exchange)
open FleetSearch.Inventory (Collection)

/-- The calls that are made for an identifier. -/
def callsFor (calls : List Call) (identifier : String) : List Call :=
  calls.filter fun call => call.identifier == identifier

/-- How often something is written for an identifier. -/
def writesFor (log : List Exchange) (identifier : String) : Nat :=
  log.countP (Exchange.writesTo identifier)

theorem callsFor_cons_of_ne {call : Call} {identifier : String}
    (different : identifier ≠ call.identifier) (calls : List Call) :
    callsFor (call :: calls) identifier = callsFor calls identifier := by
  simp [callsFor, Ne.symm different]

theorem writesFor_append (first second : List Exchange) (identifier : String) :
    writesFor (first ++ second) identifier =
      writesFor first identifier + writesFor second identifier :=
  List.countP_append

theorem writesFor_snoc (log : List Exchange) (exchange : Exchange) (identifier : String) :
    writesFor (log ++ [exchange]) identifier =
      writesFor log identifier + if exchange.writesTo identifier then 1 else 0 := by
  rw [writesFor_append, writesFor, writesFor, List.countP_singleton]

/-- No call and no write is made for an identifier. -/
def Untouched (calls : List Call) (log : List Exchange) (identifier : String) : Prop :=
  callsFor calls identifier = [] ∧ writesFor log identifier = 0

theorem untouched_append_iff {calls : List Call} {first second : List Exchange}
    {identifier : String} (unwritten : writesFor first identifier = 0) :
    Untouched calls (first ++ second) identifier ↔ Untouched calls second identifier := by
  simp [Untouched, writesFor_append, unwritten]

/-- What is on record about a query, by how far it has come. -/
def Recorded (finder : Finder) (pattern : String) (earlier calls : List Call) (log : List Exchange)
    (query : Query) : Progress → Prop
  | .waiting => Untouched calls log query.identifier
  | .listing course =>
    callsFor calls query.identifier = [query.call pattern] ∧
      Asked earlier calls pattern query course ∧ writesFor log query.identifier = 0
  | .writing items access =>
    callsFor calls query.identifier = [query.call pattern] ∧
      Answered earlier calls pattern query items ∧ ∃ left,
        finder.Writing query items left access ∧ writesFor log query.identifier + left ≤ 1
  | .finished =>
    callsFor calls query.identifier = [query.call pattern] ∧ writesFor log query.identifier ≤ 1
  | .failed _ => True

/-- What is on record about a live phase. -/
structure Records (finder : Finder) (pattern : String) (pending : List Query)
    (earlier calls : List Call) (log : List Exchange) (work : List (Query × Progress)) : Prop where
  queries : work.map Prod.fst = pending
  recorded : ∀ item ∈ work, Recorded finder pattern earlier calls log item.1 item.2
  untouched : ∀ identifier ∉ pending.map Query.identifier, Untouched calls log identifier

section Records

variable {finder : Finder} {pattern : String} {pending : List Query} {earlier calls : List Call}
  {log next : List Exchange} {query : Query} {progress : Progress}

/-- A record stays as it is while nothing more is called or written for the identifier. -/
theorem Recorded.frame (recorded : Recorded finder pattern earlier calls log query progress)
    (more : List Call)
    (called : callsFor (more ++ calls) query.identifier = callsFor calls query.identifier)
    (written : writesFor next query.identifier = writesFor log query.identifier) :
    Recorded finder pattern earlier (more ++ calls) next query progress := by
  cases progress with
  | waiting => exact ⟨called.trans recorded.1, written.trans recorded.2⟩
  | listing course =>
    obtain ⟨once, asked, unwritten⟩ := recorded
    exact ⟨called.trans once, asked.mono more, written.trans unwritten⟩
  | writing items access =>
    obtain ⟨once, answered, left, writing, spent⟩ := recorded
    exact ⟨called.trans once, answered.mono more, left, writing, written ▸ spent⟩
  | finished => exact ⟨called.trans recorded.1, written ▸ recorded.2⟩
  | failed => trivial

/-- One query gets further; for the others nothing is called or written. -/
theorem Records.replace {before after : List (Query × Progress)} {last : Progress}
    (records : Records finder pattern pending earlier calls log
      (before ++ (query, progress) :: after))
    (distinct : (pending.map Query.identifier).Nodup) (more : List Call)
    (frame : ∀ identifier, identifier ≠ query.identifier →
      callsFor (more ++ calls) identifier = callsFor calls identifier ∧
        writesFor next identifier = writesFor log identifier)
    (recorded : Recorded finder pattern earlier (more ++ calls) next query last) :
    Records finder pattern pending earlier (more ++ calls) next
      (before ++ (query, last) :: after) := by
  have queries := records.queries
  rw [List.map_append, List.map_cons] at queries
  have others : ∀ item ∈ before ++ after, item.1.identifier ≠ query.identifier := by
    rw [← queries, List.map_append, List.map_cons] at distinct
    have apart := (List.nodup_middle.mp distinct).notMem
    intro item member same
    refine apart (same ▸ ?_)
    rw [← List.map_append, ← List.map_append]
    exact List.mem_map_of_mem (List.mem_map_of_mem member)
  refine ⟨by simpa using queries, ?_, ?_⟩
  · intro item member
    rcases List.perm_middle.mem_iff.mp member with _ | member
    · exact recorded
    · obtain ⟨called, written⟩ := frame _ (others item ‹_›)
      refine (records.recorded item ?_).frame more called written
      exact List.perm_middle.mem_iff.mpr (List.mem_cons_of_mem _ ‹_›)
  · intro identifier outside
    have different : identifier ≠ query.identifier := by
      rintro rfl
      exact outside (List.mem_map_of_mem (queries ▸ by simp))
    obtain ⟨called, written⟩ := frame identifier different
    obtain ⟨uncalled, unwritten⟩ := records.untouched identifier outside
    exact ⟨called.trans uncalled, written.trans unwritten⟩

end Records

/-- The queries with answers among the results. -/
def finished (work : List (Query × Progress)) : List Query :=
  work.filterMap fun
    | (query, .finished) => some query
    | _ => none

theorem finished_of_unfinished {progress : Progress} (unfinished : progress ≠ .finished)
    (before after : List (Query × Progress)) (query : Query) :
    finished (before ++ (query, progress) :: after) = finished before ++ finished after := by
  cases progress <;> simp [finished] at unfinished ⊢

theorem finished_of_finished (before after : List (Query × Progress)) (query : Query) :
    finished (before ++ (query, .finished) :: after) =
      finished before ++ query :: finished after := by
  simp [finished]

/-- The accounts of finished queries make up the results, next to the hits. -/
structure Ledger (finder : Finder) (pattern : String) (hits : Collection) (pending : List Query)
    (earlier calls : List Call) (log : List Exchange) (accounts : List (Query × Collection))
    (live : Live) (shared : Shared) : Prop where
  asking : live.pattern = pattern
  called : shared.calls = calls ++ earlier
  notices : live.NoticesFinished
  records : Records finder pattern pending earlier calls log live.work
  held : live.results.held = hits ++ accounts.flatMap Prod.snd
  settled : (accounts.map Prod.fst).Perm (finished live.work)
  answered : ∀ account ∈ accounts, Answered earlier calls pattern account.1 account.2

namespace Ledger

variable {finder : Finder} {pattern : String} {hits : Collection} {pending : List Query}
  {earlier calls : List Call} {log : List Exchange} {accounts : List (Query × Collection)}
  {live next : Live} {shared later : Shared}

theorem start (finder : Finder) (plan : Plan) (request : Request) (shared : Shared)
    (isCancelled : Bool) :
    Ledger finder request.pattern plan.hits.held plan.pending shared.calls [] [] []
      { plan.live request.pattern with isCancelled } shared := by
  have work := Live.work_of_plan plan request.pattern isCancelled
  refine ⟨rfl, rfl, ?_, ⟨?_, ?_, ?_⟩, by simp [Plan.live], ?_, by simp⟩
  · intro task member joined
    obtain ⟨query, _, rfl⟩ := List.mem_map.mp member
    simp at joined
  · simp [work, Function.comp_def]
  · rw [work]
    intro item member
    obtain ⟨query, _, rfl⟩ := List.mem_map.mp member
    exact ⟨rfl, rfl⟩
  · intro identifier _
    exact ⟨rfl, rfl⟩
  · simp [work, finished, List.filterMap_map]

private theorem replace {before after : List Task} {task : Task} {progress : Progress}
    (more : List Call) (added : List Exchange)
    (ledger : Ledger finder pattern hits pending earlier calls log accounts live shared)
    (distinct : (pending.map Query.identifier).Nodup) (split : live.tasks = before ++ task :: after)
    (called : later.calls = more ++ shared.calls)
    (frame : ∀ identifier, identifier ≠ task.query.identifier →
      callsFor (more ++ calls) identifier = callsFor calls identifier ∧
        writesFor (log ++ added) identifier = writesFor log identifier)
    (recorded : Recorded finder pattern earlier (more ++ calls) (log ++ added) task.query progress)
    (unfinished : task.progress ≠ .finished ∧ progress ≠ .finished) :
    Ledger finder pattern hits pending earlier (more ++ calls) (log ++ added) accounts
      { live with tasks := before ++ { task with progress } :: after } later := by
  have work : live.work = before.map (fun task => (task.query, task.progress)) ++
      (task.query, task.progress) :: after.map fun task => (task.query, task.progress) := by
    simp [Live.work, split]
  have records := ledger.records
  rw [work] at records
  refine ⟨ledger.asking, by simp [called, ledger.called], ?_, ?_, ledger.held, ?_, ?_⟩
  · refine ledger.notices.replace split rfl fun joined => ?_
    exact absurd (ledger.notices task (by simp [split]) joined) unfinished.1
  · simpa [Live.work] using records.replace distinct more frame recorded
  · have settled := ledger.settled
    rw [work, finished_of_unfinished unfinished.1] at settled
    simpa [Live.work, finished_of_unfinished unfinished.2] using settled
  · intro account member
    exact (ledger.answered account member).mono more

private theorem join {before after : List Task} {task : Task} {items : Collection}
    (ledger : Ledger finder pattern hits pending earlier calls log accounts live shared)
    (distinct : (pending.map Query.identifier).Nodup) (split : live.tasks = before ++ task :: after)
    (unfinished : task.progress ≠ .finished)
    (recorded : Recorded finder pattern earlier calls log task.query .finished)
    (answered : Answered earlier calls pattern task.query items) :
    Ledger finder pattern hits pending earlier calls log (accounts ++ [(task.query, items)])
      { live with
        tasks := before ++ { task with progress := .finished } :: after
        results := live.results.add items }
      shared := by
  have work : live.work = before.map (fun task => (task.query, task.progress)) ++
      (task.query, task.progress) :: after.map fun task => (task.query, task.progress) := by
    simp [Live.work, split]
  have records := ledger.records
  have settled := ledger.settled
  rw [work] at records settled
  refine ⟨ledger.asking, ledger.called, ?_, ?_, ?_, ?_, ?_⟩
  · exact ledger.notices.replace split rfl fun _ => rfl
  · simpa [Live.work] using records.replace distinct [] (by simp) recorded
  · simp [Inventory.Collector.add, ledger.held]
  · rw [finished_of_unfinished unfinished] at settled
    have joined : (accounts.map Prod.fst ++ [task.query]).Perm _ :=
      (settled.append_right [task.query]).trans (List.perm_append_singleton _ _)
    simpa [Live.work, finished_of_finished] using joined.trans List.perm_middle.symm
  · intro account member
    rcases List.mem_append.mp member with old | new
    · exact ledger.answered account old
    · cases List.mem_singleton.mp new
      exact answered

/-- Whatever happens, the ledger can be kept. -/
theorem advance {exchange : Option Exchange}
    (ledger : Ledger finder pattern hits pending earlier calls log accounts live shared)
    (distinct : (pending.map Query.identifier).Nodup)
    (advanced : Advance finder live shared exchange next later) :
    ∃ calls accounts, Ledger finder pattern hits pending earlier calls (log ++ exchange.toList)
      accounts next later := by
  have asking := ledger.asking
  subst asking
  have recorded {before after : List Task} {task : Task}
      (split : live.tasks = before ++ task :: after) :
      Recorded finder live.pattern earlier calls log task.query task.progress :=
    ledger.records.recorded (task.query, task.progress) (by simp [Live.work, split])
  cases advanced with
  | rest next millis work asking results notices =>
    obtain ⟨_, called, noticed, records, held, settled, answered⟩ := ledger
    refine ⟨calls, accounts, asking, called, notices noticed, ?_, ?_, ?_, answered⟩
    · simpa [work] using records
    · rw [results, held]
    · rwa [work]
  | @ask before after task course split waiting asked =>
    have untouched := recorded split
    rw [waiting] at untouched
    obtain ⟨uncalled, unwritten⟩ := untouched
    refine ⟨_, _, ledger.replace [task.query.call live.pattern] [] distinct split rfl ?_ ?_ ?_⟩
    · intro identifier different
      exact ⟨callsFor_cons_of_ne different calls, by simp⟩
    · refine ⟨?_, ⟨[], calls, rfl, ?_⟩, by simpa using unwritten⟩
      · simpa [callsFor, Query.call] using uncalled
      · rw [asked, Shared.callCount, ledger.called]
    · simp [waiting]
  | fail cause split unanswered =>
    refine ⟨_, _, ledger.replace [] [] distinct split rfl (by simp) trivial ?_⟩
    rcases unanswered with waiting | ⟨course, listing⟩
    · simp [waiting]
    · simp [listing]
  | @answer before after task course items split listing returned =>
    have listed := recorded split
    rw [listing] at listed
    obtain ⟨once, asked, unwritten⟩ := listed
    obtain ⟨left, most, writing⟩ := Finder.Writing.written finder task.query items
    refine ⟨_, _, ledger.replace [] [] distinct split rfl (by simp) ?_ (by simp [listing])⟩
    exact ⟨once, ⟨course, asked, returned⟩, left, writing, by simpa [unwritten] using most⟩
  | @write before after task items access exchange split writing made =>
    have written := recorded split
    rw [writing] at written
    obtain ⟨once, answered, left, remains, spent⟩ := written
    obtain ⟨⟨rest, next, paid⟩, kind⟩ := remains.step made
    refine ⟨_, _, ledger.replace [] [exchange] distinct split rfl ?_ ?_ (by simp [writing])⟩
    · intro identifier different
      refine ⟨rfl, ?_⟩
      have elsewhere : exchange.writesTo identifier = false := by
        rcases kind with ⟨moment, rfl⟩ | ⟨moment, reply, rfl⟩
        · rfl
        · simpa [Exchange.writesTo, Query.place] using Ne.symm different
      simp [writesFor_snoc, elsewhere]
    · refine ⟨once, answered, rest, next, ?_⟩
      rw [writesFor_snoc]
      omega
  | @keep before after task items result split written =>
    have ended := recorded split
    rw [written] at ended
    obtain ⟨once, answered, left, _, spent⟩ := ended
    have joined := ledger.join distinct split (by simp [written]) ⟨once, by omega⟩ answered
    exact ⟨_, _, by simpa using joined⟩

/-- The ledger of a live phase from its beginning. -/
theorem advances {added : List Exchange}
    (ledger : Ledger finder pattern hits pending earlier calls log accounts live shared)
    (distinct : (pending.map Query.identifier).Nodup)
    (advanced : Advances finder live shared added next later) :
    ∃ calls accounts, Ledger finder pattern hits pending earlier calls (log ++ added)
      accounts next later := by
  induction advanced with
  | refl => exact ⟨calls, accounts, by simpa using ledger⟩
  | step before last ih =>
    obtain ⟨_, _, kept⟩ := ih
    obtain ⟨calls, accounts, extended⟩ := kept.advance distinct last
    exact ⟨calls, accounts, by simpa using extended⟩

/-- A live phase that succeeds has an account for every query. -/
theorem of_ok {items : Collection}
    (ledger : Ledger finder pattern hits pending earlier calls log accounts live shared)
    (ended : live.result? = some (.ok items)) :
    items = hits ++ accounts.flatMap Prod.snd ∧ (accounts.map Prod.fst).Perm pending ∧
      ∀ query ∈ pending, callsFor calls query.identifier = [query.call pattern] ∧
        writesFor log query.identifier ≤ 1 := by
  have ⟨joined, same⟩ : live.tasks.all Task.isJoined = true ∧ live.results.held = items := by
    unfold Live.result? at ended
    split at ended
    · cases ended
    · split at ended
      · cases ended
        exact ⟨by assumption, rfl⟩
      · cases ended
  have complete : ∀ task ∈ live.tasks, task.progress = .finished :=
    fun task member => ledger.notices task member (List.all_eq_true.mp joined task member)
  have work : live.work = pending.map fun query => (query, .finished) := by
    rw [← ledger.records.queries]
    simpa [Live.work] using complete
  refine ⟨same ▸ ledger.held, ?_, ?_⟩
  · simpa [work, finished, List.filterMap_map] using ledger.settled
  · intro query member
    exact ledger.records.recorded (query, .finished) (by simpa [work] using member)

end Ledger

end FleetSearch.Search
