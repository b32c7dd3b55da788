import FleetSearch.Proofs.Search.Conduct
import FleetSearch.Proofs.Search.Preparation

/-! Any number of searches on one store, in any order of their steps. Whatever becomes of each of
them, a row of the store is always the text of a complete answer: that of the backend which its
bucket stands for, to a query for a pattern with its key. -/

namespace FleetSearch.Search

open FleetSearch.Backend (Course Registry)
open FleetSearch.Cache (Access CacheError Exchange Place Reads Row Store spelled)
open FleetSearch.Config (Resolver)
open FleetSearch.Inventory (Collection)

/-- Searches side by side, and what they share. -/
structure World where
  shared : Shared
  searches : List Run := []

/-- What can happen. -/
inductive Happening where
  /-- A search begins. Each one has its own client and its own use of the cache. -/
  | begin (client : Network.Client) (isCaching : Bool) (lifetime : Cache.Lifetime)
      (request : Request)
  /-- One of the searches makes a move. -/
  | move (index : Nat) (move : Move)
  /-- The caller drops a search, and its tasks are given up. -/
  | drop (index : Nat)
  /-- The store fails, or works again. -/
  | outage (isOpen : Bool)
  /-- Rows that had expired by a moment are dropped. -/
  | purge (moment : Nat)

/-- A search that the caller has dropped. -/
def Run.drop (run : Run) : Run :=
  match run.stage with
  | .live live => { run with stage := .live { live with tasks := live.tasks.map Task.abandon } }
  | _ => run

namespace World

/-- What happens to a world in which all searches go by one registry and one resolver. -/
def step (registry : Registry) (resolver : Resolver) (happening : Happening) (world : World) :
    World :=
  match happening with
  | .begin client isCaching lifetime request =>
    let finder : Finder := { registry, resolver, client, isCaching, lifetime }
    { world with searches := world.searches ++ [.start finder request] }
  | .move index move =>
    match world.searches[index]? with
    | none => world
    | some run =>
      let (run, shared) := run.step move world.shared
      { shared, searches := world.searches.set index run }
  | .drop index => { world with searches := world.searches.modify index Run.drop }
  | .outage isOpen =>
    { world with shared := { world.shared with store := { world.shared.store with isOpen } } }
  | .purge moment =>
    { world with
      shared := { world.shared with store := world.shared.store.eraseExpired moment } }

/-- A world comes about from its beginning. -/
inductive Reaches (registry : Registry) (resolver : Resolver) (start : Shared) : World → Prop where
  | start : Reaches registry resolver start { shared := start }
  | step {world : World} (happening : Happening) (before : Reaches registry resolver start world) :
      Reaches registry resolver start (world.step registry resolver happening)

end World

/-- Whether a collection is the whole answer of the backend that a bucket stands for, to a query for
a pattern with this key. -/
def Complete (registry : Registry) (resolver : Resolver) (earlier calls : List Call) (place : Place)
    (items : Collection) : Prop :=
  ∃ (finder : Finder) (backend : Backend) (pattern : String),
    finder.registry = registry ∧ finder.resolver = resolver ∧
    finder.backend? place.bucket = some backend ∧ backend.cacheKey pattern = place.key ∧
    Answered earlier calls pattern ⟨place.bucket, place.key, backend⟩ items

/-- Whether a row is the text of a complete answer for its place. -/
def Kept (registry : Registry) (resolver : Resolver) (earlier calls : List Call) (place : Place)
    (row : Row) : Prop :=
  ∃ items, Complete registry resolver earlier calls place items ∧ row.text = items.write

/-- How a query stands with the calls that were made. -/
def Pursued (finder : Finder) (earlier calls : List Call) (pattern : String) (query : Query) :
    Progress → Prop
  | .listing course => Asked earlier calls pattern query course
  | .writing items access => Answered earlier calls pattern query items ∧
    ∃ left, finder.Writing query items left access
  | _ => True

/-- The queries of a live phase are for the backends that their identifiers stand for, and answers
that are written were given. -/
def Live.Honest (finder : Finder) (earlier calls : List Call) (live : Live) : Prop :=
  ∀ item ∈ live.work, finder.backend? item.1.identifier = some item.1.backend ∧
    item.1.key = item.1.backend.cacheKey live.pattern ∧
    Pursued finder earlier calls live.pattern item.1 item.2

/-- A preparation has seen rows with complete answers only, and a live phase is honest. -/
inductive Stage.Honest (finder : Finder) (request : Request) (earlier calls : List Call) :
    Stage → Prop where
  | preparing {access : Access (Except SearchError Plan)} {log : List Exchange}
      (led : (finder.plan request).Leads log access)
      (seen : ∀ place row, .select place (.ok (some row)) ∈ log →
        Kept finder.registry finder.resolver earlier calls place row) :
      Honest finder request earlier calls (.preparing access)
  | refused (error : SearchError) : Honest finder request earlier calls (.refused error)
  | live {live : Live} (honest : live.Honest finder earlier calls) :
      Honest finder request earlier calls (.live live)

/-- A search that goes by the registry and the resolver and stands honestly. -/
structure Run.Honest (registry : Registry) (resolver : Resolver) (earlier calls : List Call)
    (run : Run) : Prop where
  registered : run.finder.registry = registry
  resolved : run.finder.resolver = resolver
  staged : run.stage.Honest run.finder run.request earlier calls

section Growth

variable {registry : Registry} {resolver : Resolver} {earlier calls : List Call}

theorem Kept.mono {place : Place} {row : Row}
    (kept : Kept registry resolver earlier calls place row)
    (more : List Call) : Kept registry resolver earlier (more ++ calls) place row := by
  obtain ⟨items, complete, text⟩ := kept
  obtain ⟨finder, backend, pattern, registered, resolved, built, key, answered⟩ := complete
  have later := answered.mono more
  exact ⟨items, ⟨finder, backend, pattern, registered, resolved, built, key, later⟩, text⟩

theorem Pursued.mono {finder : Finder} {pattern : String} {query : Query} {progress : Progress}
    (pursued : Pursued finder earlier calls pattern query progress) (more : List Call) :
    Pursued finder earlier (more ++ calls) pattern query progress := by
  cases progress with
  | listing course => exact Asked.mono pursued more
  | writing items access => exact ⟨pursued.1.mono more, pursued.2⟩
  | _ => trivial

theorem Live.Honest.mono {finder : Finder} {live : Live} (honest : live.Honest finder earlier calls)
    (more : List Call) : live.Honest finder earlier (more ++ calls) := by
  intro item member
  obtain ⟨built, key, pursued⟩ := honest item member
  exact ⟨built, key, pursued.mono more⟩

theorem Run.Honest.mono {run : Run} (honest : run.Honest registry resolver earlier calls)
    (more : List Call) : run.Honest registry resolver earlier (more ++ calls) := by
  refine ⟨honest.registered, honest.resolved, ?_⟩
  have staged := honest.staged
  generalize run.stage = stage at staged
  cases staged with
  | preparing led seen =>
    exact .preparing led fun place row looked => (seen place row looked).mono more
  | refused error => exact .refused error
  | live honest => exact .live (honest.mono more)

end Growth

/-- Whether an exchange puts nothing in the store but answers to queries of a finder. -/
def Finder.Keeps (finder : Finder) (earlier calls : List Call) (pattern : String)
    (exchange : Exchange) : Prop :=
  ∀ place row reply, exchange = .insert place row reply → ∃ query items,
    finder.backend? query.identifier = some query.backend ∧
    query.key = query.backend.cacheKey pattern ∧ place = query.place ∧
    Answered earlier calls pattern query items ∧ row.text = items.write

section Steps

variable {finder : Finder} {earlier calls : List Call} {live next : Live} {shared later : Shared}
  {exchange : Option Exchange}

private theorem honest_replace {before after : List Task} {task : Task} {progress : Progress}
    {results : Inventory.Collector} (honest : live.Honest finder earlier calls)
    (split : live.tasks = before ++ task :: after)
    (pursued : Pursued finder earlier calls live.pattern task.query progress) :
    Live.Honest finder earlier calls
      { live with tasks := before ++ { task with progress } :: after, results } := by
  intro item member
  obtain ⟨other, present, rfl⟩ := List.mem_map.mp member
  rcases List.perm_middle.mem_iff.mp present with _ | present
  · have ⟨built, key, _⟩ := honest (task.query, task.progress) (by simp [Live.work, split])
    exact ⟨built, key, pursued⟩
  · refine honest (other.query, other.progress) (List.mem_map_of_mem ?_)
    rw [split]
    exact List.perm_middle.mem_iff.mpr (List.mem_cons_of_mem _ ‹_›)

theorem Live.Honest.advance (honest : live.Honest finder earlier calls)
    (called : shared.calls = calls ++ earlier)
    (advanced : Advance finder live shared exchange next later) :
    ∃ more, later.calls = more ++ calls ++ earlier ∧ next.Honest finder earlier (more ++ calls) ∧
      ∀ made ∈ exchange, finder.Keeps earlier (more ++ calls) live.pattern made := by
  cases advanced with
  | rest next millis work pattern results notices =>
    refine ⟨[], called, ?_, by simp⟩
    intro item member
    rw [pattern]
    exact honest item (work ▸ member)
  | @ask before after task course split waiting asked =>
    refine ⟨[task.query.call live.pattern], by simp [called], ?_, by simp⟩
    -- The call is made now, so the course depends on all calls before it, old and new.
    refine honest_replace (honest.mono _) split ⟨[], calls, rfl, ?_⟩
    rw [asked, Shared.callCount, called]
  | fail cause split unanswered => exact ⟨[], called, honest_replace honest split trivial, by simp⟩
  | @answer before after task course items split listing returned =>
    have ⟨_, _, asked⟩ := honest (task.query, task.progress) (by simp [Live.work, split])
    rw [listing] at asked
    obtain ⟨left, _, writing⟩ := Finder.Writing.written finder task.query items
    refine ⟨[], called, honest_replace honest split ?_, by simp⟩
    exact ⟨⟨course, asked, returned⟩, left, writing⟩
  | @write before after task items access exchange split writing made =>
    have ⟨built, key, pursued⟩ := honest (task.query, task.progress) (by simp [Live.work, split])
    rw [writing] at pursued
    obtain ⟨answered, left, remains⟩ := pursued
    obtain ⟨⟨rest, next, _⟩, kind⟩ := remains.step made
    refine ⟨[], called, honest_replace honest split ⟨answered, rest, next⟩, ?_⟩
    intro exchange same place row reply insert
    cases same
    rcases kind with ⟨moment, rfl⟩ | ⟨moment, answer, rfl⟩
    · cases insert
    · cases insert
      exact ⟨task.query, items, built, key, rfl, answered, rfl⟩
  | keep split written => exact ⟨[], called, honest_replace honest split trivial, by simp⟩

end Steps

theorem mem_rows_apply {store : Store} {exchange : Exchange} {entry : Place × Row}
    (member : entry ∈ (exchange.apply store).rows) :
    entry ∈ store.rows ∨ ∃ reply, exchange = .insert entry.1 entry.2 reply := by
  have old {next : Store} (subset : next.rows ⊆ store.rows)
      (member : entry ∈ (Access.changed store next).rows) : entry ∈ store.rows := by
    unfold Access.changed at member
    split at member
    · exact subset member
    · exact member
  cases exchange with
  | clock => exact .inl member
  | select => exact .inl member
  | erase place reply => exact .inl (old (List.filter_subset_self _) member)
  | eraseExpired moment reply => exact .inl (old (List.filter_subset_self _) member)
  | insert place row reply =>
    simp only [Exchange.apply, Access.changed] at member
    split at member
    · rcases List.mem_cons.mp member with rfl | member
      · exact .inr ⟨reply, rfl⟩
      · exact .inl (List.mem_of_mem_filter member)
    · exact .inl member

theorem Advance.stored {finder : Finder} {live next : Live} {shared later : Shared}
    {exchange : Option Exchange} (advanced : Advance finder live shared exchange next later) :
    ∀ entry ∈ later.store.rows, entry ∈ shared.store.rows ∨
      ∃ reply, exchange = some (.insert entry.1 entry.2 reply) := by
  intro entry member
  cases advanced with
  | write split writing made =>
    rcases mem_rows_apply member with old | ⟨reply, rfl⟩
    · exact .inl old
    · exact .inr ⟨reply, rfl⟩
  | _ => exact .inl member

section Runs

variable {registry : Registry} {resolver : Resolver} {earlier calls : List Call} {run next : Run}
  {shared later : Shared} {exchange : Option Exchange}

/-- A search stays honest at every step, and keeps the rows of the store as they should be. -/
theorem Run.Honest.takes (honest : run.Honest registry resolver earlier calls)
    (called : shared.calls = calls ++ earlier)
    (rows : ∀ entry ∈ shared.store.rows, Kept registry resolver earlier calls entry.1 entry.2)
    (takes : run.Takes shared exchange next later) :
    ∃ more, later.calls = more ++ calls ++ earlier ∧
      next.Honest registry resolver earlier (more ++ calls) ∧
      ∀ entry ∈ later.store.rows,
        Kept registry resolver earlier (more ++ calls) entry.1 entry.2 := by
  obtain ⟨rfl, rfl, staged⟩ := honest
  cases takes with
  | rest => exact ⟨[], called, ⟨rfl, rfl, staged⟩, rows⟩
  | await => exact ⟨[], called, ⟨rfl, rfl, staged⟩, rows⟩
  | @prepare access exchange preparing made =>
    rw [preparing] at staged
    cases staged with
    | @preparing _ log led seen =>
      obtain ⟨hears, asked, _⟩ := Access.step_of_exchange made
      refine ⟨[], called, ⟨rfl, rfl, .preparing (led.trans (.step hears .refl)) ?_⟩, ?_⟩
      · intro place row looked
        rcases List.mem_append.mp looked with old | new
        · exact seen place row old
        · cases List.mem_singleton.mp new
          exact rows (place, row) (Exchange.mem_rows_of_at asked)
      · -- A preparation that put a row in the store would have written something.
        intro entry member
        rcases mem_rows_apply member with old | ⟨reply, rfl⟩
        · exact rows entry old
        · exact absurd made ((Finder.plan_writesNothing ..).of_leads led).not_insert
  | refuse preparing => exact ⟨[], called, ⟨rfl, rfl, .refused _⟩, rows⟩
  | @settle plan preparing =>
    rw [preparing] at staged
    cases staged with
    | preparing led seen =>
      obtain ⟨entries, prepared, _, rfl⟩ := Finder.plan_leads led
      refine ⟨[], called, ⟨rfl, rfl, .live ?_⟩, rows⟩
      intro item member
      rw [Live.work_of_plan, Plan.extend_pending] at member
      obtain ⟨query, pending, rfl⟩ := List.mem_map.mp member
      obtain ⟨entry, missed, rfl⟩ := List.mem_map.mp pending
      exact ⟨(prepared.sound entry (List.mem_of_mem_filter missed)).built, rfl, trivial⟩
  | @advance live next later exchange living advanced =>
    rw [living] at staged
    cases staged with
    | live honest =>
      obtain ⟨more, grown, kept, wrote⟩ := honest.advance called advanced
      refine ⟨more, grown, ⟨rfl, rfl, .live kept⟩, ?_⟩
      intro entry member
      rcases advanced.stored entry member with old | ⟨reply, insert⟩
      · exact (rows entry old).mono more
      · obtain ⟨query, items, built, key, place, answered, text⟩ := wrote _ insert _ _ _ rfl
        refine ⟨items, ⟨run.finder, query.backend, live.pattern, rfl, rfl, ?_, ?_, ?_⟩, text⟩
        all_goals rw [place]
        · exact built
        · exact key.symm
        · exact answered

end Runs

/-- A world in which all searches are honest and all rows are as they should be. -/
structure World.Sound (registry : Registry) (resolver : Resolver) (earlier calls : List Call)
    (world : World) : Prop where
  called : world.shared.calls = calls ++ earlier
  rows : ∀ entry ∈ world.shared.store.rows, Kept registry resolver earlier calls entry.1 entry.2
  searches : ∀ run ∈ world.searches, run.Honest registry resolver earlier calls

section Worlds

variable {registry : Registry} {resolver : Resolver} {earlier calls : List Call} {world : World}

theorem Run.Honest.drop {run : Run} (honest : run.Honest registry resolver earlier calls) :
    run.drop.Honest registry resolver earlier calls := by
  unfold Run.drop
  split
  · rename_i live living
    obtain ⟨registered, resolved, staged⟩ := honest
    rw [living] at staged
    cases staged with
    | live honest =>
      refine ⟨registered, resolved, .live fun item member => honest item ?_⟩
      simpa [Live.work] using member
  · exact honest

theorem World.Sound.step (sound : world.Sound registry resolver earlier calls)
    (happening : Happening) : ∃ more,
      (world.step registry resolver happening).Sound registry resolver earlier (more ++ calls) := by
  cases happening with
  | begin client isCaching lifetime request =>
    refine ⟨[], sound.called, sound.rows, fun run member => ?_⟩
    rcases List.mem_append.mp member with old | new
    · exact sound.searches run old
    · cases List.mem_singleton.mp new
      exact ⟨rfl, rfl, .preparing .refl (by simp)⟩
  | move index move =>
    cases found : world.searches[index]? with
    | none => exact ⟨[], by simpa [World.step, found] using sound⟩
    | some run =>
      have honest := sound.searches run (List.mem_of_getElem? found)
      obtain ⟨more, called, kept, rows⟩ :=
        honest.takes sound.called sound.rows (run.step_takes move world.shared)
      refine ⟨more, ?_⟩
      simp only [World.step, found]
      refine ⟨called, rows, fun other member => ?_⟩
      rcases List.mem_or_eq_of_mem_set member with old | rfl
      · exact (sound.searches other old).mono more
      · exact kept
  | drop index =>
    refine ⟨[], sound.called, sound.rows, fun run member => ?_⟩
    obtain ⟨place, found⟩ := List.getElem?_of_mem member
    simp only [World.step, List.getElem?_modify] at found
    obtain ⟨other, present, rfl⟩ := Option.map_eq_some_iff.mp found
    have honest := sound.searches other (List.mem_of_getElem? present)
    split
    · exact honest.drop
    · exact honest
  | outage isOpen => exact ⟨[], sound.called, sound.rows, sound.searches⟩
  | purge moment =>
    refine ⟨[], sound.called, fun entry member => ?_, sound.searches⟩
    exact sound.rows entry (List.mem_of_mem_filter member)

theorem World.Reaches.sound {start : Shared} (reached : World.Reaches registry resolver start world)
    (empty : start.store.rows = []) :
    ∃ calls, world.Sound registry resolver start.calls calls := by
  induction reached with
  | start => exact ⟨[], rfl, by simp [empty], by simp⟩
  | step happening before ih =>
    obtain ⟨calls, sound⟩ := ih
    obtain ⟨more, sound⟩ := sound.step happening
    exact ⟨more ++ calls, sound⟩

/-- A row in the store is the text of one complete answer, of the backend that its bucket stands for
and to a query with its key. So is what a preparation finds in the cache: a hit is what the text of
such an answer spells. -/
theorem World.rows_complete {start : Shared} (empty : start.store.rows = [])
    (reached : World.Reaches registry resolver start world) :
    ∃ calls, world.shared.calls = calls ++ start.calls ∧
      (∀ entry ∈ world.shared.store.rows,
        Kept registry resolver start.calls calls entry.1 entry.2) ∧
      ∀ run ∈ world.searches, ∀ plan, run.stage = .preparing (.done (.ok plan)) →
        ∃ entries, Prepared run.finder run.request entries ∧
          plan = Plan.extend {} run.request.pattern entries ∧
          ∀ entry ∈ entries, ∀ items, entry.found = some items → ∃ whole,
            Complete registry resolver start.calls calls (entry.query run.request.pattern).place
              whole ∧ spelled Collection.decode whole.write = .ok items := by
  obtain ⟨calls, sound⟩ := reached.sound empty
  refine ⟨calls, sound.called, sound.rows, ?_⟩
  intro run member plan preparing
  obtain ⟨rfl, rfl, staged⟩ := sound.searches run member
  rw [preparing] at staged
  cases staged with
  | @preparing _ log led seen =>
    obtain ⟨entries, prepared, rfl, planned⟩ := Finder.plan_leads led
    refine ⟨entries, prepared, planned, ?_⟩
    intro entry present items hit
    obtain ⟨row, looked, spelling⟩ := (prepared.sound entry present).hit hit
    obtain ⟨whole, complete, text⟩ := seen _ row (List.mem_flatMap.mpr ⟨entry, present, looked⟩)
    exact ⟨whole, complete, text ▸ spelling⟩

/-- A search writes its answer, and a second one finds it. -/
private theorem hosts_reaches : ∃ world,
    World.Reaches hostsFinder.registry hostsFinder.resolver {} world ∧
    (∃ row, (⟨"idle", "web"⟩, row) ∈ world.shared.store.rows) ∧
    ∃ run ∈ world.searches, ∃ plan, run.stage = .preparing (.done (.ok plan)) ∧
      plan.pending = [] := by
  have begun : World.Reaches hostsFinder.registry hostsFinder.resolver {} _ :=
    .step (.begin hostsFinder.client true ⟨0⟩ { backends := ["idle"], pattern := "web" }) .start
  have asked := ((begun.step (.move 0 .prepare)).step (.move 0 .prepare)).step
    (.move 0 (.happen (.work 0)))
  have written := ((asked.step (.move 0 (.happen (.work 0)))).step
    (.move 0 (.happen (.work 0)))).step (.move 0 (.happen (.work 0)))
  have again := written.step
    (.begin hostsFinder.client true ⟨0⟩ { backends := ["idle"], pattern := "web" })
  have found := (again.step (.move 1 .prepare)).step (.move 1 .prepare)
  exact ⟨_, found, ⟨_, List.mem_cons_self ..⟩, _, .tail _ (.head _), _, rfl, rfl⟩

theorem rows_complete_hosts : ∃ (world : World) (calls : List Call) (run : Run) (plan : Plan)
    (row : Row), World.Reaches hostsFinder.registry hostsFinder.resolver {} world ∧
    (⟨"idle", "web"⟩, row) ∈ world.shared.store.rows ∧
    Kept hostsFinder.registry hostsFinder.resolver [] calls ⟨"idle", "web"⟩ row ∧
    run ∈ world.searches ∧ run.stage = .preparing (.done (.ok plan)) ∧ plan.pending = [] ∧
    ∃ entries, Prepared run.finder run.request entries ∧
      plan = Plan.extend {} run.request.pattern entries ∧
      ∀ entry ∈ entries, ∀ items, entry.found = some items → ∃ whole,
        Complete hostsFinder.registry hostsFinder.resolver [] calls
          (entry.query run.request.pattern).place whole ∧
        spelled Collection.decode whole.write = .ok items := by
  obtain ⟨world, reached, ⟨row, present⟩, run, member, plan, prepared, settled⟩ := hosts_reaches
  obtain ⟨calls, _, rows, hits⟩ := World.rows_complete rfl reached
  exact ⟨world, calls, run, plan, row, reached, present, rows _ present, member, prepared, settled,
    hits run member plan prepared⟩

end Worlds

end FleetSearch.Search
