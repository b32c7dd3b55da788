import FleetSearch.Proofs.Cache.InForce
import FleetSearch.Proofs.Search.Union

/-! What a search that succeeds leaves in the cache: in the place of every target stands a row that
spells what the target has contributed. It stood there before, or one of the tasks wrote it, and the
tasks do not get into each other's way. -/

namespace FleetSearch.Search

open FleetSearch.Cache (Access CacheError Exchange Place Store)
open FleetSearch.Inventory (Collection)

/-- An answer stands in the place of its query. -/
def Finder.HasKept (finder : Finder) (query : Query) (items : Collection) (store : Store) : Prop :=
  ∃ moment, store.row? query.place = some ⟨items.write, finder.lifetime.deadline? moment⟩

/-- What can remain of keeping an answer; when it is nothing, the answer stands in its place. -/
inductive Finder.Keeping (finder : Finder) (query : Query) (items : Collection) (store : Store) :
    Access (Except CacheError Unit) → Prop where
  | begun : Keeping finder query items store
      (.clock fun now => .insert query.place ⟨items.write, finder.lifetime.deadline? now⟩ .done)
  | timed (now : Nat) : Keeping finder query items store
      (.insert query.place ⟨items.write, finder.lifetime.deadline? now⟩ .done)
  | done (result : Except CacheError Unit) (keeps : finder.HasKept query items store) :
      Keeping finder query items store (.done result)

/-- What the store has for a query, by how far it has come. -/
def Shelved (finder : Finder) (pattern : String) (earlier calls : List Call) (store : Store)
    (query : Query) : Progress → Prop
  | .writing items access => finder.Keeping query items store access
  | .finished =>
    ∃ items, Answered earlier calls pattern query items ∧ finder.HasKept query items store
  | _ => True

/-- The store of a live phase: it has the answers to queries that have finished, and in all other
places the rows that it had before. -/
structure Shelf (finder : Finder) (pattern : String) (pending : List Query)
    (earlier calls : List Call) (before : Store) (live : Live) (store : Store) : Prop where
  opened : store.isOpen = true
  shelved : ∀ item ∈ live.work, Shelved finder pattern earlier calls store item.1 item.2
  others : ∀ place ∉ pending.map Query.place, store.row? place = before.row? place

section Shelf

variable {finder : Finder} {pattern : String} {pending : List Query} {earlier calls : List Call}
  {before store next : Store} {query : Query} {items : Collection} {progress : Progress}
  {live : Live} {hits : Collection} {log : List Exchange} {accounts : List (Query × Collection)}

/-- A step of a write changes no place but that of its query. -/
theorem Finder.Keeping.step {access : Access (Except CacheError Unit)} {now : Nat}
    {exchange : Exchange} (keeping : finder.Keeping query items store access)
    (opened : store.isOpen = true) (made : access.exchange? now store = some exchange) :
    finder.Keeping query items (exchange.apply store) (access.step now store).1 ∧
      (exchange.apply store).isOpen = true ∧
      ∀ place ≠ query.place, (exchange.apply store).row? place = store.row? place := by
  refine ⟨?_, (Exchange.isOpen_apply store exchange).trans opened, ?_⟩
  · cases keeping with
    | begun => exact .timed now
    | timed moment =>
      cases made
      refine .done _ ⟨moment, ?_⟩
      simp [Exchange.apply, Access.changed, opened, Store.row?_insert_self]
    | done => cases made
  · intro place different
    cases keeping with
    | begun =>
      cases made
      rfl
    | timed moment =>
      cases made
      simpa [Exchange.apply, Access.changed, opened] using
        Store.row?_insert_of_ne different store _
    | done => cases made

/-- What the store has for a query depends on the row in its place alone. -/
theorem Shelved.frame (shelved : Shelved finder pattern earlier calls store query progress)
    (more : List Call) (same : next.row? query.place = store.row? query.place) :
    Shelved finder pattern earlier (more ++ calls) next query progress := by
  have keeps {items : Collection} (kept : finder.HasKept query items store) :
      finder.HasKept query items next := by
    obtain ⟨moment, found⟩ := kept
    exact ⟨moment, same.trans found⟩
  cases progress with
  | writing items access =>
    cases shelved with
    | begun => exact .begun
    | timed now => exact .timed now
    | done result kept => exact .done result (keeps kept)
  | finished =>
    obtain ⟨items, answered, kept⟩ := shelved
    exact ⟨items, answered.mono more, keeps kept⟩
  | _ => trivial

private theorem Shelf.replace {early late : List Task} {task : Task}
    {results : Inventory.Collector} (more : List Call)
    (shelf : Shelf finder pattern pending earlier calls before live store)
    (queries : live.work.map Prod.fst = pending) (distinct : (pending.map Query.identifier).Nodup)
    (split : live.tasks = early ++ task :: late) (opened : next.isOpen = true)
    (frame : ∀ place ≠ task.query.place, next.row? place = store.row? place)
    (shelved : Shelved finder pattern earlier (more ++ calls) next task.query progress) :
    Shelf finder pattern pending earlier (more ++ calls) before
      { live with tasks := early ++ { task with progress } :: late, results } next := by
  have asked : pending.map Query.identifier = early.map (·.query.identifier) ++
      task.query.identifier :: late.map (·.query.identifier) := by
    simp [← queries, Live.work, split, Function.comp_def]
  have apart : ∀ other ∈ early ++ late, other.query.place ≠ task.query.place := by
    rw [asked] at distinct
    have fresh := (List.nodup_middle.mp distinct).notMem
    intro other member same
    have named : other.query.identifier = task.query.identifier := congrArg Place.bucket same
    rw [← List.map_append, ← named] at fresh
    exact fresh (List.mem_map_of_mem member)
  refine ⟨opened, ?_, ?_⟩
  · intro item member
    obtain ⟨other, present, rfl⟩ := List.mem_map.mp member
    rcases List.perm_middle.mem_iff.mp present with _ | present
    · exact shelved
    · refine (shelf.shelved _ (List.mem_map_of_mem ?_)).frame more (frame _ (apart other ‹_›))
      rw [split]
      exact List.perm_middle.mem_iff.mpr (List.mem_cons_of_mem _ ‹_›)
  · intro place outside
    have different : place ≠ task.query.place := by
      rintro rfl
      refine outside (queries ▸ ?_)
      simp [Live.work, split]
    exact (frame place different).trans (shelf.others place outside)

theorem Advance.called {next : Live} {shared later : Shared} {exchange : Option Exchange}
    (advanced : Advance finder live shared exchange next later) :
    ∃ more, later.calls = more ++ shared.calls := by
  cases advanced with
  | ask => exact ⟨[_], rfl⟩
  | _ => exact ⟨[], rfl⟩

/-- Whatever happens, the store of a live phase has the answers. -/
theorem Shelf.advance {next : Live} {shared later : Shared} {exchange : Option Exchange}
    (shelf : Shelf finder pattern pending earlier calls before live shared.store)
    (ledger : Ledger finder pattern hits pending earlier calls log accounts live shared)
    (caching : finder.isCaching = true) (distinct : (pending.map Query.identifier).Nodup)
    (advanced : Advance finder live shared exchange next later) (more : List Call) :
    Shelf finder pattern pending earlier (more ++ calls) before next later.store := by
  have queries := ledger.records.queries
  have recorded {early late : List Task} {task : Task}
      (split : live.tasks = early ++ task :: late) :
      (task.query, task.progress) ∈ live.work := by simp [Live.work, split]
  cases advanced with
  | rest next millis work =>
    refine ⟨shelf.opened, ?_, shelf.others⟩
    rw [work]
    exact fun item member => (shelf.shelved item member).frame more rfl
  | ask split =>
    exact shelf.replace more queries distinct split shelf.opened (fun _ _ => rfl) trivial
  | fail cause split =>
    exact shelf.replace more queries distinct split shelf.opened (fun _ _ => rfl) trivial
  | @answer _ _ task _ items split =>
    have keeping : finder.Keeping task.query items shared.store
        (finder.written task.query items) := by
      rw [Finder.written, if_pos caching]
      exact .begun
    exact shelf.replace more queries distinct split shelf.opened (fun _ _ => rfl) keeping
  | @write _ _ task items access exchange split writing made =>
    have shelved := shelf.shelved _ (recorded split)
    rw [writing] at shelved
    obtain ⟨keeping, opened, frame⟩ := Finder.Keeping.step shelved shelf.opened made
    exact shelf.replace more queries distinct split opened frame keeping
  | @keep _ _ task items result split written =>
    have shelved := shelf.shelved _ (recorded split)
    have answered := ledger.records.recorded _ (recorded split)
    rw [written] at shelved answered
    obtain ⟨_, answered, _⟩ := answered
    cases shelved with
    | done _ keeps =>
      exact shelf.replace more queries distinct split shelf.opened (fun _ _ => rfl)
        ⟨items, answered.mono more, keeps⟩

/-- The ledger and the store of a live phase from its beginning. -/
theorem Shelf.of_advances {plan : Plan} {request : Request} {middle later : Shared}
    {isCancelled : Bool} (caching : finder.isCaching = true)
    (distinct : (plan.pending.map Query.identifier).Nodup) (opened : middle.store.isOpen = true)
    (advances : Advances finder { plan.live request.pattern with isCancelled } middle log live
      later) :
    ∃ calls accounts, Ledger finder request.pattern plan.hits.held plan.pending middle.calls calls
        log accounts live later ∧
      Shelf finder request.pattern plan.pending middle.calls calls middle.store live
        later.store := by
  induction advances with
  | refl =>
    refine ⟨[], [], .start finder plan request middle isCancelled, opened, ?_, fun _ _ => rfl⟩
    rw [Live.work_of_plan]
    intro item member
    obtain ⟨query, _, rfl⟩ := List.mem_map.mp member
    trivial
  | step before last ih =>
    obtain ⟨calls, accounts, ledger, shelf⟩ := ih
    obtain ⟨total, extended, kept⟩ := ledger.advance distinct last
    obtain ⟨more, called⟩ := last.called
    have same : total = more ++ calls := by
      rw [kept.called, ledger.called, ← List.append_assoc] at called
      exact List.append_cancel_right called
    exact ⟨total, extended, kept, same ▸ shelf.advance ledger caching distinct last more⟩

/-- A query that was asked once took one course. -/
theorem Asked.unique {course other : Backend.Course}
    (once : callsFor calls query.identifier = [query.call pattern])
    (first : Asked earlier calls pattern query course)
    (second : Asked earlier calls pattern query other) : course = other := by
  obtain ⟨late, early, split, rfl⟩ := first
  obtain ⟨after, before, same, rfl⟩ := second
  have mine : ((query.call pattern).identifier == query.identifier) = true := beq_self_eq_true _
  rw [split, callsFor, List.filter_append, List.filter_cons, if_pos mine] at once
  obtain ⟨unasked, alone⟩ | ⟨_, impossible⟩ := List.append_eq_singleton_iff.mp once
  · have before_mine : query.call pattern ∉ late :=
      fun member => List.filter_eq_nil_iff.mp unasked _ member mine
    have after_mine : query.call pattern ∉ early :=
      fun member => List.filter_eq_nil_iff.mp (List.cons.inj alone).2 _ member mine
    have aligned := (List.append_cons_inj_of_notMem before_mine after_mine).mp
      (split.symm.trans same)
    rw [aligned.2.2]
  · cases impossible

theorem Answered.unique {other : Collection}
    (once : callsFor calls query.identifier = [query.call pattern])
    (first : Answered earlier calls pattern query items)
    (second : Answered earlier calls pattern query other) : items = other := by
  obtain ⟨course, asked, returned⟩ := first
  obtain ⟨_, again, ended⟩ := second
  obtain rfl := asked.unique once again
  exact Backend.Ending.returns.inj (returned.symm.trans ended)

/-- What is in the accounts stands in the store. -/
theorem Shelf.hasKept {shared : Shared}
    (shelf : Shelf finder pattern pending earlier calls before live store)
    (ledger : Ledger finder pattern hits pending earlier calls log accounts live shared)
    {account : Query × Collection} (member : account ∈ accounts) :
    finder.HasKept account.1 account.2 store := by
  have finished : (account.1, Progress.finished) ∈ live.work := by
    obtain ⟨⟨query, progress⟩, present, same⟩ :=
      List.mem_filterMap.mp (ledger.settled.mem_iff.mp (List.mem_map_of_mem member))
    cases progress with
    | finished =>
      obtain rfl := Option.some.inj same
      exact present
    | _ => cases same
  obtain ⟨items, answered, keeps⟩ := shelf.shelved _ finished
  obtain ⟨once, _⟩ := ledger.records.recorded _ finished
  rwa [answered.unique once (ledger.answered account member)] at keeps

end Shelf

/-- What the row in a place spells, whether or not it has expired. -/
def shelved? (store : Store) (place : Place) : Option Collection :=
  (store.row? place).bind fun row => (Cache.spelled Collection.decode row.text).toOption

namespace Finder

/-- The place of an identifier in the cache. -/
def place? (finder : Finder) (pattern : String) (identifier : String) : Option Place :=
  (finder.backend? identifier).map fun backend => ⟨identifier, backend.cacheKey pattern⟩

/-- The places of the targets of a request, one after another. -/
def places (finder : Finder) (request : Request) : List (Option Place) :=
  (finder.leaders [] request.identifiers).map fun leader => finder.place? request.pattern leader.2

/-- What a store has in the places of the targets of a request. -/
def shelved (finder : Finder) (request : Request) (store : Store) : List (Option Collection) :=
  (finder.places request).map (·.bind (shelved? store))

/-- A backend that was asked for a request returned these instances. -/
def Returned (finder : Finder) (request : Request) (earlier calls : List Call)
    (items : Collection) : Prop :=
  ∃ identifier backend, finder.backend? identifier = some backend ∧
    Answered earlier calls request.pattern
      ⟨identifier, backend.cacheKey request.pattern, backend⟩ items

theorem shelved?_of_cached? {place : Place} {moment : Nat} {store : Store} {items : Collection}
    (found : ((cached? place).run moment store).1 = some items) :
    shelved? store place = some items := by
  rw [run_cached?, Cache.run_get_eq_inForce] at found
  split at found
  · split at found
    · rename_i row inForce
      simp [shelved?, (Store.inForce?_eq_some_iff.mp inForce).1, found]
    · simp [Except.toOption] at found
  · simp [Except.toOption] at found

theorem cached?_of_shelved? {place : Place} {moment : Nat} {store : Store} {items : Collection}
    (opened : store.isOpen = true) (found : shelved? store place = some items)
    (valid : ∀ row, store.row? place = some row → row.isExpired moment = false) :
    ((cached? place).run moment store).1 = some items := by
  obtain ⟨row, here, spells⟩ := Option.bind_eq_some_iff.mp found
  rw [run_cached?, Cache.run_get_of_row opened here (valid row here), spells]

end Finder

section Preparation

variable {finder : Finder} {request : Request} {entries : List Entry}

/-- A look that finds something takes nothing from the cache. -/
theorem Entry.Sound.after_of_hit {entry : Entry} (sound : entry.Sound finder request)
    (hit : entry.found.isSome = true) (store : Store) :
    Exchange.after store entry.log = store := by
  cases reading : finder.readsCache request with
  | true =>
    obtain ⟨answer, reads, found⟩ := sound.read reading
    generalize entry.log = log at reads
    cases reads with
    | inForce => rfl
    | _ => simp [found, Except.toOption] at hit
  | false => simp [(sound.unread reading).2] at hit

/-- A preparation leaves the row in a place in which nothing, or something in force, was looked
for. -/
theorem Entry.row?_after (sound : ∀ entry ∈ entries, entry.Sound finder request) {place : Place}
    (hits : ∀ entry ∈ entries, (entry.query request.pattern).place = place →
      entry.found.isSome = true) (store : Store) :
    (Exchange.after store (entries.flatMap Entry.log)).row? place = store.row? place := by
  induction entries generalizing store with
  | nil => rfl
  | cons entry rest ih =>
    have tail := ih (fun other member => sound other (List.mem_cons_of_mem _ member))
      (fun other member => hits other (List.mem_cons_of_mem _ member))
    rw [List.flatMap_cons, Exchange.after, List.foldl_append]
    refine (tail _).trans ?_
    have first := sound entry List.mem_cons_self
    by_cases here : (entry.query request.pattern).place = place
    · exact congrArg (fun store => Store.row? store place)
        (first.after_of_hit (hits entry List.mem_cons_self here) store)
    · exact Exchange.row?_after_of_reads (Ne.symm here) store first.readsOnly

theorem Prepared.shelved?_of_hit (prepared : Prepared finder request entries) {now last : Nat}
    {store : Store} (reads : finder.readsCache request = true)
    (performed : Exchange.Performed now store (entries.flatMap Entry.log) last) {entry : Entry}
    (member : entry ∈ entries) {items : Collection} (hit : entry.found = some items) :
    shelved? (Exchange.after store (entries.flatMap Entry.log))
      (entry.query request.pattern).place = some items := by
  obtain ⟨moment, _, _, looked⟩ :=
    Entry.found_during prepared.sound prepared.distinct performed entry member reads
  rw [shelved?, Entry.row?_after prepared.sound]
  · exact Finder.shelved?_of_cached? (looked.symm.trans hit)
  · intro other present same
    have named : other.identifier = entry.identifier := congrArg Place.bucket same
    rw [List.inj_on_of_nodup_map prepared.distinct present member named, hit]
    rfl

theorem Prepared.places_eq (prepared : Prepared finder request entries) :
    finder.places request = entries.map fun entry => some (entry.query request.pattern).place := by
  rw [Finder.places, ← prepared.matched, List.map_map]
  refine List.map_congr_left fun entry member => ?_
  simp [Finder.place?, (prepared.sound entry member).built, Entry.query, Query.place]

theorem Prepared.shelved_eq (prepared : Prepared finder request entries) (store : Store) :
    finder.shelved request store =
      entries.map fun entry => shelved? store (entry.query request.pattern).place := by
  rw [Finder.shelved, prepared.places_eq, List.map_map]
  rfl

/-- Entries that the cache had an answer to, and the others. -/
theorem Entry.split_perm (entries : List Entry) :
    ((entries.filter fun entry => entry.found.isSome) ++
      entries.filter fun entry => entry.found.isNone).Perm entries := by
  simpa using List.filter_append_perm (fun entry : Entry => entry.found.isSome) entries

variable {pattern : String} {accounts : List (Query × Collection)}
  {contents : Place → Option Collection}

theorem Entry.hits_perm (hits : ∀ entry ∈ entries, ∀ items, entry.found = some items →
      contents (entry.query pattern).place = some items) :
    (entries.flatMap fun entry => entry.found.getD []).Perm
      ((entries.filter fun entry => entry.found.isSome).flatMap fun entry =>
        (contents (entry.query pattern).place).getD []) := by
  refine ((split_perm entries).symm.flatMap_right _).trans (.of_eq ?_)
  have nothing : ((entries.filter fun entry => entry.found.isNone).flatMap fun entry =>
      entry.found.getD []) = [] := by
    refine List.flatMap_eq_nil_iff.mpr fun entry member => ?_
    simp [Option.isNone_iff_eq_none.mp (List.mem_filter.mp member).2]
  rw [List.flatMap_append, nothing, List.append_nil]
  refine List.flatMap_congr fun entry member => ?_
  obtain ⟨present, hit⟩ := List.mem_filter.mp member
  obtain ⟨items, same⟩ := Option.isSome_iff_exists.mp hit
  rw [hits entry present items same, same]

theorem Entry.accounts_perm (settled : (accounts.map Prod.fst).Perm
      ((entries.filter fun entry => entry.found.isNone).map (Entry.query · pattern)))
    (kept : ∀ account ∈ accounts, contents account.1.place = some account.2) :
    (accounts.flatMap Prod.snd).Perm
      ((entries.filter fun entry => entry.found.isNone).flatMap fun entry =>
        (contents (entry.query pattern).place).getD []) := by
  have same : accounts.flatMap Prod.snd =
      (accounts.map Prod.fst).flatMap fun query => (contents query.place).getD [] := by
    rw [List.flatMap_map]
    exact List.flatMap_congr fun account member => by rw [kept account member]; rfl
  rw [same]
  exact (settled.flatMap_right _).trans (.of_eq (List.flatMap_map ..))

/-- Hits and accounts make up what is in the places of the entries. -/
theorem Entry.contents_perm (settled : (accounts.map Prod.fst).Perm
      ((entries.filter fun entry => entry.found.isNone).map (Entry.query · pattern)))
    (hits : ∀ entry ∈ entries, ∀ items, entry.found = some items →
      contents (entry.query pattern).place = some items)
    (kept : ∀ account ∈ accounts, contents account.1.place = some account.2) :
    ∃ parts : List Collection,
      (entries.map fun entry => contents (entry.query pattern).place) = parts.map some ∧
      (entries.flatMap (fun entry => entry.found.getD []) ++ accounts.flatMap Prod.snd).Perm
        parts.flatten := by
  refine ⟨entries.map fun entry => (contents (entry.query pattern).place).getD [], ?_, ?_⟩
  · rw [List.map_map]
    refine List.map_congr_left fun entry member => ?_
    cases found : entry.found with
    | some items => simp [hits entry member items found]
    | none =>
      have pending : entry.query pattern ∈ accounts.map Prod.fst := by
        refine settled.mem_iff.mpr (List.mem_map_of_mem (List.mem_filter.mpr ⟨member, ?_⟩))
        exact Option.isNone_iff_eq_none.mpr found
      obtain ⟨account, made, same⟩ := List.mem_map.mp pending
      simp [← same, kept account made]
  · rw [← List.flatMap_def]
    refine ((hits_perm hits).append (accounts_perm settled kept)).trans ?_
    rw [← List.flatMap_append]
    exact (split_perm entries).flatMap_right _

end Preparation

/-- A search that succeeds, alone with an open cache that it reads, leaves there what it gives: the
rows in the places of its targets spell the parts of the result. -/
theorem Reaches.leaves {finder : Finder} {request : Request} {shared later : Shared}
    {log : List Exchange} {run : Run} {items : Collection}
    (reached : Reaches finder request shared log run later)
    (ended : run.result? = some (.ok items)) (reads : finder.readsCache request = true)
    (opened : shared.store.isOpen = true)
    (spells : ∀ calls items, later.calls = calls ++ shared.calls →
      finder.Returned request shared.calls calls items →
      Cache.spelled Collection.decode items.write = .ok items) :
    later.store.isOpen = true ∧ (∃ log plan, (finder.plan request).Leads log (.done (.ok plan))) ∧
      ∃ parts : List Collection, finder.shelved request later.store = parts.map some ∧
        items.Perm parts.flatten := by
  have caching : finder.isCaching = true := by
    simp only [Finder.readsCache, Bool.and_eq_true] at reads
    exact reads.1.1
  obtain ⟨_, stands⟩ := reached.stands
  unfold Run.result? at ended
  cases staged : run.stage with
  | preparing access => simp [staged] at ended
  | refused error => simp [staged] at ended
  | live live =>
    rw [staged] at stands ended
    cases stands with
    | @live first second plan _ middle isCancelled split led performed stored called advances =>
      obtain ⟨entries, prepared, rfl, rfl⟩ := Finder.plan_leads led
      have still : middle.store.isOpen = true := by
        rw [stored, Exchange.isOpen_after, opened]
      obtain ⟨calls, accounts, ledger, shelf⟩ := Shelf.of_advances caching
        (prepared.pending_distinct request.pattern) still advances
      obtain ⟨rfl, settled, once⟩ := ledger.of_ok ended
      refine ⟨shelf.opened, ⟨_, _, led⟩, ?_⟩
      rw [prepared.shelved_eq]
      refine Entry.contents_perm (Plan.extend_pending _ entries ▸ settled) ?_ ?_
      · intro entry member items hit
        have outside := prepared.hit_notMem_pending request.pattern member hit
        rw [shelved?, shelf.others _ fun inside => outside ?_, stored]
        · exact prepared.shelved?_of_hit reads performed member hit
        · obtain ⟨query, present, same⟩ := List.mem_map.mp inside
          have named : query.identifier = entry.identifier := congrArg Place.bucket same
          exact named ▸ List.mem_map_of_mem present
      · intro account member
        obtain ⟨moment, kept⟩ := shelf.hasKept ledger member
        have pending := settled.mem_iff.mp (List.mem_map_of_mem member)
        rw [Plan.extend_pending] at pending
        obtain ⟨entry, missed, same⟩ := List.mem_map.mp pending
        have built := (prepared.sound entry (List.mem_filter.mp missed).1).built
        have answered := ledger.answered account member
        rw [called, ← same] at answered
        have returned := spells calls account.2 (called ▸ ledger.called)
          ⟨entry.identifier, entry.backend, built, answered⟩
        simp [shelved?, kept, returned, Except.toOption]

end FleetSearch.Search
