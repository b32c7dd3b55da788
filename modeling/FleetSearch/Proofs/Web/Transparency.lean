import Mathlib.Data.List.Induction
import FleetSearch.Proofs.Search.Preparation
import FleetSearch.Proofs.Web.MemoKey
import FleetSearch.Web.Service

/-! What the memory of responses answers with: rows of a search that succeeded earlier, for a
request with the same key. That is the same search, unless the two requests overlap. -/

namespace FleetSearch

namespace Web

open FleetSearch.Inventory (Collection Row)
open FleetSearch.Search (SearchError Shared)

/-- What can happen to the service. -/
inductive Visit where
  /-- A request for a page of instances. -/
  | instances (query : Option String)
  /-- Time passes, and others use the backends and the cache. -/
  | meanwhile (shared : Shared)
  /-- The memory drops something by itself. -/
  | forget (key : String)

/-- Whether a request is not served. -/
def Answer.Fails (answer : Option Answer) : Prop :=
  ∀ given, answer = some given → given.status ≠ 200

namespace Service

/-- What a visit does. -/
def visit (service : Service) : Visit → Service
  | .instances query => (service.instances query).2
  | .meanwhile shared => { service with shared }
  | .forget key =>
    { service with memo := { service.memo with entries := Entries.erase key service.memo.entries } }

/-- The service after some visits. -/
def after (service : Service) (visits : List Visit) : Service :=
  visits.foldl visit service

/-- One of the visits was a request that was not answered from the memory, and the search for it
found these instances. -/
def Finds (start : Service) (visits : List Visit) (params : Params) (items : Collection) : Prop :=
  ∃ before query rest, visits = before ++ .instances query :: rest ∧
    Params.read query = .ok params ∧ (start.after before).remembered? params = none ∧
    ((start.after before).find params.request).1 = some (.ok items)

/-- How a request for instances can go. -/
inductive Served (service : Service) (query : Option String) : Option Answer × Service → Prop where
  | refused {error : BadIndex} (read : Params.read query = .error error) :
      Served service query (some (.refusal error.message), service)
  | remembered {params : Params} {data : List Row} (read : Params.read query = .ok params)
      (found : service.remembered? params = some data) :
      Served service query (some (pageAnswer params data), service)
  | failed {params : Params} {shared : Shared} (read : Params.read query = .ok params)
      (unknown : service.remembered? params = none) (result : Option SearchError) :
      Served service query (result.map Answer.failure, { service with shared })
  | found {params : Params} {items : Collection} {shared : Shared}
      (read : Params.read query = .ok params) (unknown : service.remembered? params = none)
      (sought : (service.find params.request).1 = some (.ok items)) :
      Served service query (some (pageAnswer params items.flatten),
        { service with shared }.remember params items.flatten)

variable {start service : Service} {visits : List Visit} {query : Option String}

private theorem find_shared {request : Search.Request} {next : Service}
    {result : Option (Except SearchError Collection)}
    (sought : service.find request = (result, next)) :
    next = { service with shared := next.shared } := by
  cases sought
  rfl

theorem instances_served (service : Service) (query : Option String) :
    Served service query (service.instances query) := by
  unfold instances
  split
  · exact .refused (by assumption)
  · rename_i params read
    split
    · exact .remembered read (by assumption)
    · rename_i unknown
      split
      · rename_i next sought
        rw [find_shared sought]
        exact .failed read unknown none
      · rename_i error next sought
        rw [find_shared sought]
        exact .failed read unknown (some error)
      · rename_i items next sought
        rw [find_shared sought]
        exact .found read unknown (by rw [sought])

theorem after_snoc (start : Service) (visits : List Visit) (visit : Visit) :
    start.after (visits ++ [visit]) = (start.after visits).visit visit :=
  List.foldl_append

/-- Whether all that the memory holds was found by earlier visits, under the keys of these. -/
def Remembers (start : Service) (visits : List Visit) (service : Service) : Prop :=
  ∀ entry ∈ service.memo.entries, ∃ params items, start.Finds visits params items ∧
    params.memoKey = entry.1 ∧ entry.2.value = items.flatten

theorem Finds.snoc {params : Params} {items : Collection} (finds : start.Finds visits params items)
    (visit : Visit) : start.Finds (visits ++ [visit]) params items := by
  obtain ⟨before, query, rest, rfl, read, unknown, found⟩ := finds
  exact ⟨before, query, rest ++ [visit], by simp, read, unknown, found⟩

theorem remembers_after (empty : start.memo.entries = []) (visits : List Visit) :
    start.Remembers visits (start.after visits) := by
  induction visits using List.reverseRecOn with
  | nil => simp [Remembers, after, empty]
  | append_singleton visits visit ih =>
    have kept : ∀ entry ∈ (start.after visits).memo.entries, ∃ params items,
        start.Finds (visits ++ [visit]) params items ∧ params.memoKey = entry.1 ∧
          entry.2.value = items.flatten := by
      intro entry member
      obtain ⟨params, items, finds, key, value⟩ := ih entry member
      exact ⟨params, items, finds.snoc visit, key, value⟩
    rw [after_snoc]
    cases visit with
    | instances query =>
      have served := instances_served (start.after visits) query
      rw [Service.visit]
      generalize (start.after visits).instances query = outcome at served
      cases served with
      | refused => exact kept
      | remembered => exact kept
      | failed => exact kept
      | @found params items shared read unknown sought =>
        -- Only here the memory grows, and by what the visit itself has found.
        intro entry member
        unfold remember Memo.insert at member
        split at member
        · exact kept entry member
        · rcases Entries.mem_of_mem_insert member with rfl | member
          · exact ⟨params, items, ⟨visits, query, [], rfl, read, unknown, sought⟩, rfl, rfl⟩
          · exact kept entry member
    | meanwhile shared => exact kept
    | forget key =>
      intro entry member
      exact kept entry (Entries.erase_subset key _ member)

theorem memo_of_fails (fails : Answer.Fails (service.instances query).1) :
    (service.instances query).2.memo = service.memo := by
  have served := instances_served service query
  generalize service.instances query = outcome at served fails
  cases served with
  | found => exact absurd rfl (fails _ rfl)
  | _ => rfl

/-- An answer from the memory shows rows of a search that succeeded earlier, for a request with the
same key; that request has the same filter and the same backends if and only if the two do not
overlap. A request that fails leaves the memory as it is. -/
theorem remembered_of_earlier (empty : start.memo.entries = []) (visits : List Visit)
    (query : Option String) :
    (∀ params data, Params.read query = .ok params →
      (start.after visits).remembered? params = some data →
        (start.after visits).instances query = (some (pageAnswer params data), start.after visits) ∧
        ∃ earlier items, start.Finds visits earlier items ∧ data = items.flatten ∧
          earlier.memoKey = params.memoKey ∧
          ((earlier.filter = params.filter ∧ earlier.backends.Perm params.backends) ↔
            ¬ (earlier.Overlaps params ∨ params.Overlaps earlier))) ∧
    (Answer.Fails ((start.after visits).instances query).1 →
      ((start.after visits).instances query).2.memo = (start.after visits).memo) := by
  refine ⟨?_, memo_of_fails⟩
  intro params data read remembered
  refine ⟨by simp [instances, read, remembered], ?_⟩
  unfold remembered? Memo.get? at remembered
  split at remembered
  · cases remembered
  · split at remembered
    · rename_i found there
      split at remembered
      · cases remembered
        obtain ⟨earlier, items, finds, key, value⟩ :=
          remembers_after empty visits _ (Entries.mem_of_get? there)
        obtain ⟨before, past, rest, _, pastRead, _, _⟩ := id finds
        exact ⟨earlier, items, finds, value, key,
          Params.same_iff_of_memoKey (Params.tidy_of_read pastRead) (Params.tidy_of_read read) key⟩
      · cases remembered
    · cases remembered

/-- A service that knows one host. -/
def hostsService : Service :=
  { finder := Search.hostsFinder, memo := { lifetime := 600000, capacity := 100 } }

/-- Parameters with a bar in the filter. -/
def barInFilter : Params := { filter := "a|b", backends := ["hosts"] }

/-- Parameters with the same bar in the name of a backend. -/
def barInBackend : Params := { filter := "a", backends := ["b|hosts"] }

private theorem timeline_of_one {live : Search.Live} {moment : Nat} {events : List Search.Event}
    (answers : live.answers = [(moment, events)]) :
    live.timeline none = .wait moment :: events := by
  simp [Search.Live.timeline, Search.Live.interruptions, answers, Search.timed]

private theorem hosts_find :
    (hostsService.find barInFilter.request).1 = some (.ok Search.oneHost) := by
  have planned : (Search.hostsFinder.plan barInFilter.request).run 0 {} =
      (.ok { pending := [⟨"hosts", "a|b", Search.hosts⟩] }, {}) := rfl
  simp only [Service.find, Search.Finder.find, hostsService, planned]
  rw [timeline_of_one rfl]
  rfl

private theorem hosts_read :
    Params.read (some "filter=a%7Cb&backend=hosts") = .ok barInFilter ∧
      Params.read (some "filter=a&backend=b%7Chosts") = .ok barInBackend := by
  constructor <;> decide +kernel

/-- What a search has found is remembered for every request with the same key. -/
theorem remembered_of_found {params other : Params} {items : Collection} {next : Service}
    (read : Params.read query = .ok params) (unknown : service.remembered? params = none)
    (found : service.find params.request = (some (.ok items), next))
    (capacity : next.memo.capacity ≠ 0) (lifetime : 0 < next.memo.lifetime)
    (same : other.memoKey = params.memoKey) (allowed : other.noCache = false) :
    (service.instances query).2.remembered? other = some items.flatten := by
  have served : (service.instances query).2 = next.remember params items.flatten := by
    simp [instances, read, unknown, found]
  rw [served, remembered?, allowed, same]
  simp [remember, Memo.insert, Memo.get?, capacity, Entries.get?_insert_self, lifetime]

private theorem hosts_remembered :
    (hostsService.after [.instances (some "filter=a%7Cb&backend=hosts")]).remembered? barInBackend =
      some Search.oneHost.flatten := by
  have found : hostsService.find barInFilter.request = (some (.ok Search.oneHost),
      { hostsService with shared := (hostsService.find barInFilter.request).2.shared }) :=
    Prod.ext hosts_find rfl
  have keys : barInBackend.memoKey = barInFilter.memoKey := by decide +kernel
  exact remembered_of_found hosts_read.1 rfl found (by decide) (by decide) keys rfl

/-- A request can be answered with the rows of another search. -/
theorem remembered_of_other : ¬ ∀ (start : Service) (visits : List Visit) (query : Option String)
    (params : Params) (data : List Row), start.memo.entries = [] → Params.read query = .ok params →
    (start.after visits).remembered? params = some data →
    ∃ earlier items, start.Finds visits earlier items ∧ data = items.flatten ∧
      earlier.filter = params.filter ∧ earlier.backends.Perm params.backends := by
  intro transparent
  obtain ⟨earlier, items, finds, _, filter, _⟩ := transparent hostsService _ _ barInBackend _ rfl
    hosts_read.2 hosts_remembered
  obtain ⟨before, query, rest, split, read, _⟩ := finds
  have same : some "filter=a%7Cb&backend=hosts" = query := by
    cases before with
    | nil =>
      cases split
      rfl
    | cons => simp at split
  rw [← same, hosts_read.1] at read
  cases read
  simp [barInFilter, barInBackend] at filter

theorem remembered_of_earlier_hosts : hostsService.memo.entries = [] ∧
    ∃ earlier items,
      hostsService.Finds [.instances (some "filter=a%7Cb&backend=hosts")] earlier items ∧
      Search.oneHost.flatten = items.flatten ∧ earlier.memoKey = barInBackend.memoKey ∧
      ((earlier.filter = barInBackend.filter ∧ earlier.backends.Perm barInBackend.backends) ↔
        ¬ (earlier.Overlaps barInBackend ∨ barInBackend.Overlaps earlier)) :=
  ⟨rfl, ((remembered_of_earlier rfl _ _).1 _ _ hosts_read.2 hosts_remembered).2⟩

end Service

end Web

end FleetSearch
