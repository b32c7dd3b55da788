import FleetSearch.Proofs.Search.Conduct
import FleetSearch.Proofs.Search.Ledger
import FleetSearch.Proofs.Search.Preparation

/-! A search that succeeds gives the union of what its targets contribute: every target once, from
the cache if it is there and from its backend otherwise, in whatever order the backends answer. -/

namespace FleetSearch.Search

open FleetSearch.Cache (Exchange Store)
open FleetSearch.Inventory (Collection)

/-- What one target adds to the result of a search. -/
structure Contribution where
  /-- The first identifier with this target. -/
  identifier : String
  backend : Backend
  items : Collection

namespace Contribution

/-- The query for what is contributed. -/
def query (contribution : Contribution) (pattern : String) : Query :=
  ⟨contribution.identifier, contribution.backend.cacheKey pattern, contribution.backend⟩

/-- The cache held it at some moment of the search, and nobody was asked and nothing written. -/
structure FromCache (finder : Finder) (request : Request) (shared later : Shared)
    (calls : List Call) (log : List Exchange) (contribution : Contribution) : Prop where
  reads : finder.readsCache request = true
  found : ∃ moment, shared.now ≤ moment ∧ moment ≤ later.now ∧
    ((Finder.cached? (contribution.query request.pattern).place).run moment shared.store).1 =
      some contribution.items
  untouched : Untouched calls log contribution.identifier

/-- The cache did not hold it or was not asked. The one call that was made returned it, and it was
written at most once. -/
structure FromBackend (finder : Finder) (request : Request) (shared later : Shared)
    (calls : List Call) (log : List Exchange) (contribution : Contribution) : Prop where
  missed : finder.readsCache request = true → ∃ moment, shared.now ≤ moment ∧ moment ≤ later.now ∧
    ((Finder.cached? (contribution.query request.pattern).place).run moment shared.store).1 = none
  once : callsFor calls contribution.identifier =
    [(contribution.query request.pattern).call request.pattern]
  answered : Answered shared.calls calls request.pattern (contribution.query request.pattern)
    contribution.items
  written : writesFor log contribution.identifier ≤ 1

/-- It stands for the target of its identifier, which is the first of the request to have it. -/
structure Sound (finder : Finder) (request : Request) (shared later : Shared)
    (calls : List Call) (log : List Exchange) (contribution : Contribution) : Prop where
  first : request.identifiers.find? (fun identifier =>
    finder.key? identifier = finder.key? contribution.identifier) = some contribution.identifier
  built : finder.backend? contribution.identifier = some contribution.backend
  source : contribution.FromCache finder request shared later calls log ∨
    contribution.FromBackend finder request shared later calls log

/-- The contribution of a query that was answered. -/
def ofAccount (account : Query × Collection) : Contribution :=
  ⟨account.1.identifier, account.1.backend, account.2⟩

/-- The contribution of a target that the cache held. -/
def ofHit? (entry : Entry) : Option Contribution :=
  entry.found.map fun items => ⟨entry.identifier, entry.backend, items⟩

theorem items_ofHits (entries : List Entry) :
    (entries.filterMap ofHit?).flatMap items =
      entries.flatMap fun entry => entry.found.getD [] := by
  induction entries with
  | nil => rfl
  | cons entry rest ih => cases found : entry.found <;> simp [ofHit?, found, ← ih]

theorem identifier_ofHits (entries : List Entry) :
    (entries.filterMap ofHit?).map identifier =
      (entries.filter fun entry => entry.found.isSome).map Entry.identifier := by
  induction entries with
  | nil => rfl
  | cons entry rest ih => cases found : entry.found <;> simp [ofHit?, found, ← ih]

theorem identifiers_perm {entries : List Entry} {accounts : List (Query × Collection)}
    {pattern : String} (settled : (accounts.map Prod.fst).Perm
      ((entries.filter fun entry => entry.found.isNone).map (Entry.query · pattern))) :
    ((entries.filterMap ofHit? ++ accounts.map ofAccount).map identifier).Perm
      (entries.map Entry.identifier) := by
  have live : ((accounts.map ofAccount).map identifier).Perm
      ((entries.filter fun entry => entry.found.isNone).map Entry.identifier) := by
    simpa [ofAccount, Entry.query, Function.comp_def] using settled.map Query.identifier
  have parts := (List.filter_append_perm (fun entry : Entry => entry.found.isSome) entries).map
    Entry.identifier
  rw [List.map_append, identifier_ofHits]
  exact (live.append_left _).trans (by simpa using parts)

end Contribution

variable {finder : Finder} {request : Request} {shared later : Shared} {log : List Exchange}
  {run : Run}

theorem Finder.run_cached? (place : Cache.Place) (now : Nat) (store : Store) :
    ((cached? place).run now store).1 =
      ((Cache.get Collection.decode place).run now store).1.toOption := by
  unfold cached?
  generalize Cache.get Collection.decode place = access
  induction access generalizing store with
  | done result => rfl
  | clock next ih => exact ih now store
  | select place next ih => exact ih _ store
  | insert place row next ih => exact ih _ _
  | erase place next ih => exact ih _ _
  | eraseExpired moment next ih => exact ih _ _

/-- If the cache is asked, what an entry holds is what a look into a store finds at some moment. -/
def Entry.FoundDuring (finder : Finder) (request : Request) (store : Store) (now last : Nat)
    (entry : Entry) : Prop :=
  finder.readsCache request = true → ∃ moment, now ≤ moment ∧ moment ≤ last ∧
    entry.found = ((Finder.cached? (entry.query request.pattern).place).run moment store).1

/-- The looks into the cache of one preparation do not get into each other's way: each finds what
is there at the beginning. -/
theorem Entry.found_during {entries : List Entry} {now last : Nat} {store : Store}
    (sound : ∀ entry ∈ entries, entry.Sound finder request)
    (distinct : (entries.map Entry.identifier).Nodup)
    (performed : Exchange.Performed now store (entries.flatMap Entry.log) last) :
    ∀ entry ∈ entries, entry.FoundDuring finder request store now last := by
  -- The store that later entries look into has only lost rows under the identifier of the first.
  induction entries generalizing now store with
  | nil => simp
  | cons first rest ih =>
    obtain ⟨middle, looked, others⟩ := Exchange.performed_append_iff.mp performed
    obtain ⟨apart, distinct⟩ := List.nodup_cons.mp distinct
    have firstSound := sound first (by simp)
    intro entry member reading
    rcases List.mem_cons.mp member with rfl | member
    · obtain ⟨answer, reads, found⟩ := firstSound.read reading
      obtain ⟨moment, early, late, same⟩ := reads.eq_run looked
      exact ⟨moment, early, Nat.le_trans late others.le, by rw [found, Finder.run_cached?, same]⟩
    · obtain ⟨moment, early, late, same⟩ :=
        ih (fun entry member => sound entry (by simp [member])) distinct others entry member reading
      refine ⟨moment, Nat.le_trans looked.le early, late, ?_⟩
      have elsewhere :
          (entry.query request.pattern).place ≠ (first.query request.pattern).place := by
        intro together
        have named : entry.identifier = first.identifier := congrArg Cache.Place.bucket together
        exact apart (named ▸ List.mem_map_of_mem member)
      rw [same, Finder.run_cached?, Finder.run_cached?]
      exact congrArg Except.toOption (Cache.run_get_congr moment (Exchange.isOpen_after ..)
        (Exchange.row?_after_of_reads elsewhere _ firstSound.readsOnly))

theorem Prepared.writesFor_eq_zero {entries : List Entry}
    (prepared : Prepared finder request entries) (identifier : String) :
    writesFor (entries.flatMap Entry.log) identifier = 0 := by
  rw [writesFor, List.countP_eq_zero]
  intro exchange member
  obtain ⟨entry, present, logged⟩ := List.mem_flatMap.mp member
  simpa using ((prepared.sound entry present).readsOnly exchange logged).writesTo identifier

section Sources

variable {entries : List Entry} {calls : List Call}

/-- An entry that the cache had an answer to contributes that answer. -/
private theorem sound_of_hit {entry : Entry} {items : Collection}
    (prepared : Prepared finder request entries) (member : entry ∈ entries)
    (looked : entry.FoundDuring finder request shared.store shared.now later.now)
    (hit : entry.found = some items) (untouched : Untouched calls log entry.identifier) :
    Contribution.Sound finder request shared later calls log
      ⟨entry.identifier, entry.backend, items⟩ := by
  have sound := prepared.sound entry member
  refine ⟨prepared.first member, sound.built, .inl ?_⟩
  cases reading : finder.readsCache request with
  | true =>
    obtain ⟨moment, early, late, same⟩ := looked reading
    exact ⟨reading, ⟨moment, early, late, same ▸ hit⟩, untouched⟩
  | false => simp [(sound.unread reading).2] at hit

/-- A query that was made contributes what its backend returned. -/
private theorem sound_of_account {account : Query × Collection}
    (prepared : Prepared finder request entries)
    (looked : ∀ entry ∈ entries,
      entry.FoundDuring finder request shared.store shared.now later.now)
    (pending : account.1 ∈ (Plan.extend {} request.pattern entries).pending)
    (once : callsFor calls account.1.identifier = [account.1.call request.pattern])
    (answered : Answered shared.calls calls request.pattern account.1 account.2)
    (written : writesFor log account.1.identifier ≤ 1) :
    (Contribution.ofAccount account).Sound finder request shared later calls log := by
  obtain ⟨query, items⟩ := account
  rw [Plan.extend_pending] at pending
  obtain ⟨entry, missed, rfl⟩ := List.mem_map.mp pending
  obtain ⟨member, missed⟩ := List.mem_filter.mp missed
  refine ⟨prepared.first member, (prepared.sound entry member).built, .inr ?_⟩
  refine ⟨fun reading => ?_, once, answered, written⟩
  obtain ⟨moment, early, late, same⟩ := looked entry member reading
  exact ⟨moment, early, late, same ▸ Option.isNone_iff_eq_none.mp missed⟩

end Sources

/-- A search that succeeds gives one contribution for each target of the request. Nothing is asked
or written for another identifier. -/
theorem Reaches.union {items : Collection} (reached : Reaches finder request shared log run later)
    (ended : run.result? = some (.ok items)) :
    ∃ (calls : List Call) (contributions : List Contribution),
      later.calls = calls ++ shared.calls ∧
      (∀ identifier ∈ request.identifiers, (finder.key? identifier).isSome) ∧
      (contributions.map fun contribution => finder.key? contribution.identifier).Perm
        ((finder.targets request).map some) ∧
      items.Perm (contributions.flatMap Contribution.items) ∧
      (∀ contribution ∈ contributions,
        contribution.Sound finder request shared later calls log) ∧
      ∀ identifier ∉ contributions.map Contribution.identifier, Untouched calls log identifier := by
  obtain ⟨_, stands⟩ := reached.stands
  unfold Run.result? at ended
  cases staged : run.stage with
  | preparing access => simp [staged] at ended
  | refused error => simp [staged] at ended
  | live live =>
    rw [staged] at stands ended
    cases stands with
    | @live first second plan _ middle isCancelled split led performed stored called advances =>
      obtain ⟨entries, prepared, rfl, rfl⟩ := Finder.plan_leads led
      have looked := Entry.found_during prepared.sound prepared.distinct
        (performed.wait advances.le)
      have opened :=
        Ledger.start finder (.extend {} request.pattern entries) request middle isCancelled
      obtain ⟨calls, accounts, ledger⟩ :=
        opened.advances (prepared.pending_distinct request.pattern) advances
      rw [called] at ledger
      obtain ⟨rfl, settled, once⟩ := ledger.of_ok ended
      have untouched {identifier : String} (outside : identifier ∉
          (Plan.extend {} request.pattern entries).pending.map Query.identifier) :
          Untouched calls log identifier := by
        rw [split, untouched_append_iff (prepared.writesFor_eq_zero identifier)]
        exact ledger.records.untouched identifier outside
      have perm := Contribution.identifiers_perm (Plan.extend_pending _ entries ▸ settled)
      refine ⟨calls, entries.filterMap Contribution.ofHit? ++ accounts.map .ofAccount,
        ledger.called, prepared.known, ?_, ?_, ?_, ?_⟩
      · have keys := (perm.map finder.key?).trans prepared.keys
        rwa [List.map_map] at keys
      · refine .of_eq ?_
        simp [Contribution.items_ofHits, Plan.extend, Contribution.ofAccount, List.flatMap_map]
      · intro contribution member
        rcases List.mem_append.mp member with hit | answered
        · obtain ⟨entry, present, made⟩ := List.mem_filterMap.mp hit
          obtain ⟨items, found, rfl⟩ := Option.map_eq_some_iff.mp made
          exact sound_of_hit prepared present (looked entry present) found
            (untouched (prepared.hit_notMem_pending request.pattern present found))
        · obtain ⟨account, present, rfl⟩ := List.mem_map.mp answered
          have pending := settled.mem_iff.mp (List.mem_map_of_mem present)
          obtain ⟨asked, written⟩ := once account.1 pending
          refine sound_of_account prepared looked pending asked (ledger.answered account present) ?_
          rwa [split, writesFor_append, prepared.writesFor_eq_zero, Nat.zero_add]
      · intro identifier outside
        refine untouched fun pending => outside (perm.mem_iff.mpr ?_)
        rw [Plan.extend_pending_identifiers] at pending
        exact (List.filter_sublist.map _).subset pending

/-- A cache that holds an empty result for the section. -/
def westCached : Shared :=
  { store := { rows := [(⟨"west", "web"⟩, ⟨"[]", none⟩)] } }

theorem union_hosts : ∃ log run later, Reaches hostsFinder hostsRequest westCached log run later ∧
    run.result? = some (.ok oneHost) ∧
    ∃ (calls : List Call) (contributions : List Contribution), later.calls = calls ++ [] ∧
      (contributions.map fun contribution => hostsFinder.key? contribution.identifier).Perm
        [some ("hosts", "hosts"), some ("hosts", "west")] ∧
      oneHost.Perm (contributions.flatMap Contribution.items) ∧
      ∀ contribution ∈ contributions,
        contribution.Sound hostsFinder hostsRequest westCached later calls log := by
  have asked : Reaches hostsFinder hostsRequest westCached _ _ _ :=
    (((Reaches.start.step .prepare).step .prepare).step .prepare).step .prepare
  have answered := (asked.step (.happen (.work 0))).step (.happen (.work 0))
  have written := (answered.step (.happen (.work 0))).step (.happen (.work 0))
  have joined := (written.step (.happen (.work 0))).step (.happen (.join 0))
  obtain ⟨calls, contributions, called, _, keys, items, sound, _⟩ := joined.union rfl
  refine ⟨_, _, _, joined, rfl, calls, contributions, called, keys.trans ?_, items, sound⟩
  have targets : hostsFinder.targets hostsRequest = [("hosts", "west"), ("hosts", "hosts")] := by
    decide
  rw [targets]
  exact List.Perm.swap _ _ _

end FleetSearch.Search
