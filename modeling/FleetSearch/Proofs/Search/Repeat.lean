import FleetSearch.Proofs.Inventory.Written
import FleetSearch.Proofs.Search.Refusal
import FleetSearch.Proofs.Search.Shelf

/-! A search that is repeated. While what the first search found in the cache or left there is in
force, and nobody writes there, the second one gives the same instances and asks nobody. -/

namespace FleetSearch.Search

open FleetSearch.Backend (Descriptor Registry)
open FleetSearch.Cache (Access Exchange Place Store Use)
open FleetSearch.Inventory (Collection)

/-- Whether other searches are run in the same surroundings: the settings, the environment and the
names of the backends are the same, and what is built for a request is still built and has the same
places in the cache. Nothing is said of what the backends list. -/
structure Finder.Renews (finder other : Finder) (request : Request) : Prop where
  resolver : other.resolver = finder.resolver
  caching : other.isCaching = finder.isCaching
  names : (other.registry.descriptors.map fun descriptor =>
      (descriptor.name, descriptor.shortName)) =
    finder.registry.descriptors.map fun descriptor => (descriptor.name, descriptor.shortName)
  builds : ∀ identifier ∈ request.identifiers, ∀ backend,
    finder.backend? identifier = some backend → ∃ renewed,
      other.backend? identifier = some renewed ∧
        renewed.cacheKey request.pattern = backend.cacheKey request.pattern

theorem name_find (registry : Registry) (name : String) :
    (registry.find name).toOption.map Descriptor.name =
      ((registry.descriptors.map fun descriptor => (descriptor.name, descriptor.shortName)).find?
        fun names => names.1 == name || names.2 == name).map Prod.fst := by
  have same : (fun descriptor : Descriptor => descriptor.answersTo name) =
      (fun names : String × String => names.1 == name || names.2 == name) ∘
        fun descriptor => (descriptor.name, descriptor.shortName) := rfl
  rw [List.find?_map, Option.map_map, Registry.find, same]
  cases registry.descriptors.find? _ <;> rfl

namespace Finder

variable {finder other : Finder} {request : Request}

/-- What an identifier stands for, by the name of the backend that is found for it. -/
theorem key?_eq_name (finder : Finder) (identifier : String) :
    finder.key? identifier =
      match (finder.resolver.settings.section? identifier).bind Config.Section.type? with
      | some kind =>
        ((finder.registry.find kind).toOption.map Descriptor.name).map (·, identifier)
      | none =>
        ((finder.registry.find identifier).toOption.map Descriptor.name).map
          fun name => (name, name) := by
  unfold key? Config.Resolver.target
  cases (finder.resolver.settings.section? identifier).bind Config.Section.type? with
  | some kind =>
    dsimp only
    cases finder.registry.find kind <;> rfl
  | none =>
    dsimp only
    cases finder.registry.find identifier <;> rfl

namespace Renews

theorem key?_eq (renews : finder.Renews other request) (identifier : String) :
    other.key? identifier = finder.key? identifier := by
  simp only [key?_eq_name, name_find, renews.resolver, renews.names]

theorem readsCache_eq (renews : finder.Renews other request) :
    other.readsCache request = finder.readsCache request := by
  simp [readsCache, renews.resolver, renews.caching]

theorem leaders_eq (renews : finder.Renews other request) :
    other.leaders [] request.identifiers = finder.leaders [] request.identifiers :=
  leaders_congr renews.key?_eq

/-- What is built for a target is built again, for the same place. -/
theorem builds_leader (renews : finder.Renews other request) {leader : TargetKey × String}
    (member : leader ∈ finder.leaders [] request.identifiers)
    (built : (finder.backend? leader.2).isSome = true) :
    (other.backend? leader.2).isSome = true ∧
      other.place? request.pattern leader.2 = finder.place? request.pattern leader.2 := by
  obtain ⟨backend, same⟩ := Option.isSome_iff_exists.mp built
  obtain ⟨renewed, again, key⟩ :=
    renews.builds _ (List.mem_of_find?_eq_some (find?_of_mem_leaders member)) backend same
  simp [place?, same, again, key]

variable (renews : finder.Renews other request) (ready : finder.refusal? request = none)

include renews ready

theorem refusal?_eq_none : other.refusal? request = none := by
  obtain ⟨named, known, built⟩ := refusal?_eq_none_iff.mp ready
  refine refusal?_eq_none_iff.mpr ⟨named, ?_, ?_⟩
  · simpa only [renews.key?_eq] using known
  · rw [renews.leaders_eq]
    exact fun leader member => (renews.builds_leader member (built leader member)).1

theorem places_eq : other.places request = finder.places request := by
  obtain ⟨_, _, built⟩ := refusal?_eq_none_iff.mp ready
  rw [places, places, renews.leaders_eq]
  exact List.map_congr_left fun leader member =>
    (renews.builds_leader member (built leader member)).2

end Renews

end Finder

/-- Whether the rows in some places are in force until a moment, and spell these parts. -/
structure Serves (store : Store) (places : List (Option Place)) (parts : List Collection)
    (last : Nat) : Prop where
  opened : store.isOpen = true
  spells : places.map (·.bind (shelved? store)) = parts.map some
  inForce : ∀ place row, some place ∈ places → store.row? place = some row →
    row.isExpired last = false

/-- Nothing is left to be asked if every entry has been found. -/
theorem Plan.extend_of_found {entries : List Entry} {parts : List Collection}
    (found : entries.map Entry.found = parts.map some) (pattern : String) :
    (Plan.extend {} pattern entries).pending = [] ∧
      (Plan.extend {} pattern entries).hits.held = parts.flatten := by
  constructor
  · rw [Plan.extend_pending, List.map_eq_nil_iff, List.filter_eq_nil_iff]
    intro entry member
    have present : entry.found ∈ parts.map some := found ▸ List.mem_map_of_mem member
    obtain ⟨items, _, same⟩ := List.mem_map.mp present
    simp [← same]
  · have held : entries.flatMap (fun entry => entry.found.getD []) =
        ((entries.map Entry.found).map (·.getD [])).flatten := by
      simp [List.flatMap_def, Function.comp_def]
    simp [Plan.extend, held, found, Function.comp_def]

section Served

variable {finder : Finder} {request : Request} {parts : List Collection} {store : Store}
  {now last : Nat} {log : List Exchange}

/-- Rows in force are not touched by uses that write nothing. -/
theorem Serves.after {places : List (Option Place)} {idle : List Use}
    (serves : Serves store places parts last) (quiet : ∀ use ∈ idle, use.operation.IsQuiet)
    (past : ∀ use ∈ idle, use.now ≤ last) :
    Serves (idle.foldl Store.use store) places parts last := by
  obtain ⟨opened, spells, inForce⟩ := serves
  have stays : ∀ place, some place ∈ places → ∃ row, store.row? place = some row ∧
      (idle.foldl Store.use store).row? place = some row ∧ row.isExpired last = false := by
    intro place member
    have present : shelved? store place ∈ parts.map some :=
      spells ▸ List.mem_map.mpr ⟨some place, member, rfl⟩
    obtain ⟨items, _, holds⟩ := List.mem_map.mp present
    obtain ⟨row, there, _⟩ := Option.bind_eq_some_iff.mp holds.symm
    have valid := inForce place row member there
    have outlives := Store.inForce?_foldl_use quiet past
      (Store.inForce?_eq_some_iff.mpr ⟨there, valid⟩)
    exact ⟨row, there, (Store.inForce?_eq_some_iff.mp outlives).1, valid⟩
  refine ⟨(Store.isOpen_foldl_use quiet store).trans opened, ?_, ?_⟩
  · rw [← spells]
    refine List.map_congr_left fun place member => ?_
    cases place with
    | none => rfl
    | some place =>
      obtain ⟨row, before, after, _⟩ := stays place member
      simp [shelved?, before, after]
  · intro place row member found
    obtain ⟨_, _, after, valid⟩ := stays place member
    rwa [Option.some.inj (after.symm.trans found)] at valid

/-- Every entry of a preparation has found what its place holds. -/
theorem Serves.found {entries : List Entry}
    (serves : Serves store (finder.places request) parts last)
    (prepared : Prepared finder request entries) (reads : finder.readsCache request = true)
    (performed : Exchange.Performed now store (entries.flatMap Entry.log) last) :
    entries.map Entry.found = parts.map some := by
  obtain ⟨opened, spells, inForce⟩ := serves
  have places := prepared.places_eq
  rw [places, List.map_map] at spells
  rw [← spells]
  refine List.map_congr_left fun entry member => ?_
  obtain ⟨moment, _, early, looked⟩ :=
    Entry.found_during prepared.sound prepared.distinct performed entry member reads
  have present : shelved? store (entry.query request.pattern).place ∈ parts.map some :=
    spells ▸ List.mem_map_of_mem member
  obtain ⟨items, _, holds⟩ := List.mem_map.mp present
  have here : some (entry.query request.pattern).place ∈ finder.places request :=
    places ▸ List.mem_map_of_mem member
  have found := Finder.cached?_of_shelved? opened holds.symm fun row there =>
    Cache.Row.inForce_of_le early (inForce _ row here there)
  rw [looked, found, Function.comp_apply, Option.bind_some, holds]

/-- A preparation that finds everything ends with a plan that asks nobody. -/
theorem Serves.of_leads (serves : Serves store (finder.places request) parts last)
    (reads : finder.readsCache request = true) (ready : finder.refusal? request = none)
    {outcome : Except SearchError Plan}
    (leads : (finder.plan request).Leads log (.done outcome))
    (performed : Exchange.Performed now store log last) :
    ∃ plan, outcome = .ok plan ∧ plan.pending = [] ∧ plan.hits.held = parts.flatten := by
  rw [Finder.refusal?_of_leads leads] at ready
  cases outcome with
  | error error => cases ready
  | ok plan =>
    obtain ⟨entries, prepared, rfl, rfl⟩ := Finder.plan_leads leads
    exact ⟨_, rfl, Plan.extend_of_found (serves.found prepared reads performed) request.pattern⟩

theorem Finder.advance_of_idle {plan : Plan} (idle : plan.pending = []) (finder : Finder)
    (pattern : String) (events : List Event) (shared : Shared) :
    finder.advance events (plan.live pattern, shared) = (plan.live pattern, shared) := by
  cases events with
  | nil => rfl
  | cons event rest => simp [advance, Live.result?, Plan.live, idle]

/-- Without queries, a live phase has its result and asks nobody. -/
theorem Reaches.of_idle {shared later : Shared} {run : Run} {plan : Plan} {live : Live}
    {second : List Exchange} {middle : Shared} {isCancelled : Bool}
    (reached : Reaches finder request shared log run later) (staged : run.stage = .live live)
    (idle : plan.pending = []) (called : middle.calls = shared.calls)
    (advances : Advances finder { plan.live request.pattern with isCancelled } middle second live
      later) :
    later.calls = shared.calls ∧ run.result? = some (.ok plan.hits.held) := by
  have opened := Ledger.start finder plan request middle isCancelled
  obtain ⟨calls, accounts, ledger⟩ := opened.advances (by simp [idle]) advances
  have unasked : live.tasks = [] := by
    have queries := ledger.records.queries
    rw [idle] at queries
    simpa [Live.work] using queries
  constructor
  · have silent : calls = [] := by
      refine List.eq_nil_iff_forall_not_mem.mpr fun call member => ?_
      have untouched := ledger.records.untouched call.identifier (by simp [idle])
      exact List.filter_eq_nil_iff.mp untouched.1 call member (beq_self_eq_true _)
    rw [ledger.called, silent, List.nil_append, called]
  · have goesOn : live.failure = none := by
      cases failed : live.failure with
      | none => rfl
      | some error =>
        obtain ⟨_, _, _, proceeds⟩ := reached.proceeds
        obtain ⟨_, _, _, _, _, task, _, _, found, _⟩ := proceeds.blames staged failed
        simp [unasked] at found
    have ended : live.result? = some (.ok live.results.held) := by
      simp [Live.result?, goesOn, unasked, Inventory.Collector.take]
    have settled := ledger.of_ok ended
    have nothing : accounts = [] := by simpa [idle] using settled.2.1
    rw [settled.1, nothing, List.flatMap_nil, List.append_nil] at ended
    rw [Run.result?, staged]
    exact ended

end Served

/-- A repeated search is served from the cache. The first one has succeeded, in whatever order its
backends answered, with a cache that is open and read, and all that the backends returned spells
itself when it is written. Since then the store was only read and purged. As long as the rows in
the places of the targets are in force, a search in the same surroundings gives the same instances
and asks nobody, whatever the backends would list now. -/
theorem Reaches.served_again {finder other : Finder} {request : Request}
    {shared later start : Shared} {log : List Exchange} {run : Run} {items : Collection}
    {idle : List Use}
    (reached : Reaches finder request shared log run later)
    (ended : run.result? = some (.ok items)) (reads : finder.readsCache request = true)
    (opened : shared.store.isOpen = true)
    (spells : ∀ calls items, later.calls = calls ++ shared.calls →
      finder.Returned request shared.calls calls items →
      Cache.spelled Collection.decode items.write = .ok items)
    (quiet : ∀ use ∈ idle, use.operation.IsQuiet) (past : ∀ use ∈ idle, use.now ≤ start.now)
    (stored : start.store = idle.foldl Store.use later.store)
    (renews : finder.Renews other request) :
    (∀ cancelAt, (∀ place row, some place ∈ finder.places request →
        later.store.row? place = some row → row.isExpired start.now = false) →
      ∃ again last, other.find request cancelAt start = (some (.ok again), last) ∧
        again.Perm items ∧ last.calls = start.calls) ∧
    ∀ log run last, Reaches other request start log run last →
      (∀ place row, some place ∈ finder.places request →
        later.store.row? place = some row → row.isExpired last.now = false) →
      last.calls = start.calls ∧
        (∀ result, run.result? = some result → ∃ again, result = .ok again ∧ again.Perm items) ∧
        (run.IsSettled → ∃ again, run.result? = some (.ok again)) := by
  obtain ⟨still, ⟨_, _, led⟩, parts, holds, perm⟩ := reached.leaves ended reads opened spells
  have ready := Finder.refusal?_of_leads led
  have places := renews.places_eq ready
  have readsAgain := renews.readsCache_eq.trans reads
  have serves {last : Nat} (wait : start.now ≤ last)
      (valid : ∀ place row, some place ∈ finder.places request →
        later.store.row? place = some row → row.isExpired last = false) :
      Serves start.store (other.places request) parts last := by
    have left : Serves later.store (other.places request) parts last :=
      ⟨still, places ▸ holds, places ▸ valid⟩
    rw [stored]
    exact left.after quiet fun use member => Nat.le_trans (past use member) wait
  refine ⟨?_, ?_⟩
  · intro cancelAt valid
    obtain ⟨log, leads, performed, _⟩ :=
      Access.leads_run start.now start.store (other.plan request)
    obtain ⟨plan, planned, unasked, held⟩ := (serves (Nat.le_refl _) valid).of_leads readsAgain
      (renews.refusal?_eq_none ready) leads performed
    unfold Finder.find
    cases made : (other.plan request).run start.now start.store with
    | mk outcome store =>
      rw [made] at planned
      cases planned
      simp only [Finder.advance_of_idle unasked]
      refine ⟨plan.hits.held, { start with store }, ?_, held ▸ perm.symm, rfl⟩
      simp [Live.result?, Plan.live, unasked, Inventory.Collector.take]
  · intro log run last reached valid
    obtain ⟨_, stands⟩ := reached.stands
    cases staged : run.stage with
    | preparing access =>
      rw [staged] at stands
      cases stands with
      | preparing _ _ _ calls =>
        refine ⟨calls, by simp [Run.result?, staged], fun settled => ?_⟩
        exact absurd staged (settled access)
    | refused error =>
      rw [staged] at stands
      cases stands with
      | refused led =>
        have refused := Finder.refusal?_of_leads led
        rw [renews.refusal?_eq_none ready] at refused
        cases refused
    | live live =>
      rw [staged] at stands
      cases stands with
      | live _ led performed _ called advances =>
        obtain ⟨plan, planned, unasked, held⟩ :=
          (serves (Nat.le_trans performed.le advances.le) valid).of_leads readsAgain
            (renews.refusal?_eq_none ready) led (performed.wait advances.le)
        cases planned
        obtain ⟨calls, result⟩ := reached.of_idle staged unasked called advances
        refine ⟨calls, ?_, fun _ => ⟨_, result⟩⟩
        intro outcome ended
        cases result.symm.trans ended
        exact ⟨_, rfl, held ▸ perm.symm⟩

/-- The backend of the one host, after it has gone. -/
def gone : Backend := { hosts with list := fun _ _ => ⟨0, .fails (.ofText "gone")⟩ }

/-- The same searches after it has gone. -/
def goneFinder : Finder :=
  { hostsFinder with
    registry := ⟨[
      { name := "hosts", shortName := "h", description := "", factory := fun _ _ => .ok gone },
      { name := "idle", shortName := "idle", description := "", factory := fun _ _ => .ok idle }]⟩ }

theorem renews_goneFinder : hostsFinder.Renews goneFinder hostsRequest := by
  refine ⟨rfl, rfl, rfl, ?_⟩
  have named : hostsRequest.identifiers = ["h", "west", "hosts"] := by decide
  rw [named]
  intro identifier member backend built
  have known : hostsFinder.backend? identifier = some hosts ∧
      goneFinder.backend? identifier = some gone := by
    simp only [List.mem_cons, List.not_mem_nil, or_false] at member
    rcases member with rfl | rfl | rfl <;> exact ⟨rfl, rfl⟩
  cases known.1.symm.trans built
  exact ⟨gone, known.2, rfl⟩

/-- What the search for the one host leaves, next to what the cache held before. -/
def hostsKept : Shared :=
  { store := { rows := [(⟨"h", "web"⟩, ⟨Collection.write oneHost, some 600000⟩),
      (⟨"west", "web"⟩, ⟨"[]", none⟩)] }
    calls := [⟨"h", "hosts", "web"⟩] }

/-- A purge and a read of what the cache held before. -/
def quietUses : List Use := [⟨100, .purge⟩, ⟨200, .get Collection.decode ⟨"west", "web"⟩⟩]

theorem reaches_hostsKept : ∃ log run,
    Reaches hostsFinder hostsRequest westCached log run hostsKept ∧
      run.result? = some (.ok oneHost) := by
  have asked : Reaches hostsFinder hostsRequest westCached _ _ _ :=
    (((Reaches.start.step .prepare).step .prepare).step .prepare).step .prepare
  have answered := (asked.step (.happen (.work 0))).step (.happen (.work 0))
  have written := (answered.step (.happen (.work 0))).step (.happen (.work 0))
  have joined := (written.step (.happen (.work 0))).step (.happen (.join 0))
  exact ⟨_, _, joined, rfl⟩

/-- The one call of the search was answered with the one host, which spells itself. -/
theorem spelled_of_hostsKept {calls : List Call} {items : Collection}
    (called : hostsKept.calls = calls ++ westCached.calls)
    (returned : hostsFinder.Returned hostsRequest westCached.calls calls items) :
    Cache.spelled Collection.decode items.write = .ok items := by
  obtain rfl : calls = [⟨"h", "hosts", "web"⟩] := by simpa [hostsKept, westCached] using called.symm
  obtain ⟨identifier, backend, built, course, ⟨late, early, split, rfl⟩, ended⟩ := returned
  have asked : Query.call ⟨identifier, backend.cacheKey "web", backend⟩ "web" ∈
      [(⟨"h", "hosts", "web"⟩ : Call)] := by
    rw [split]
    exact List.mem_append_right _ List.mem_cons_self
  have named : identifier = "h" := congrArg Call.identifier (List.mem_singleton.mp asked)
  subst named
  cases built.symm.trans (show hostsFinder.backend? "h" = some hosts from rfl)
  obtain rfl := Backend.Ending.returns.inj ended
  refine (Collection.spelled_write ?_ ?_).trans (if_pos ?_)
  · simp [oneHost, Json.Value.Every, Json.Value.IsSorted]
  · simp [oneHost, Json.Value.Every, Json.Value.IsWhole]
  · decide

/-- What was found and what was asked for is found a moment before it expires. -/
theorem served_again_hosts : ∃ log run,
    Reaches hostsFinder hostsRequest westCached log run hostsKept ∧
      run.result? = some (.ok oneHost) ∧ hostsFinder.Renews goneFinder hostsRequest ∧
      ∃ again last, goneFinder.find hostsRequest (some 0)
          { hostsKept with
            now := 599999
            store := quietUses.foldl Store.use hostsKept.store } = (some (.ok again), last) ∧
        again.Perm oneHost ∧ last.calls = hostsKept.calls := by
  obtain ⟨log, run, reached, ended⟩ := reaches_hostsKept
  let start : Shared :=
    { hostsKept with now := 599999, store := quietUses.foldl Store.use hostsKept.store }
  have stored : start.store = quietUses.foldl Store.use hostsKept.store := rfl
  have quiet : ∀ use ∈ quietUses, use.operation.IsQuiet := by
    simp [quietUses, Cache.Operation.IsQuiet]
  have past : ∀ use ∈ quietUses, use.now ≤ start.now := by simp [quietUses, start]
  have inForce : ∀ place row, some place ∈ hostsFinder.places hostsRequest →
      hostsKept.store.row? place = some row → row.isExpired 599999 = false := by
    have used : hostsFinder.places hostsRequest = [some ⟨"h", "web"⟩, some ⟨"west", "web"⟩] := rfl
    rw [used]
    intro place row member found
    simp only [List.mem_cons, Option.some.injEq, List.not_mem_nil, or_false] at member
    rcases member with rfl | rfl <;> cases found <;> rfl
  obtain ⟨served, _⟩ := reached.served_again ended rfl rfl (fun _ _ => spelled_of_hostsKept) quiet
    past stored renews_goneFinder
  exact ⟨log, run, reached, ended, renews_goneFinder, served (some 0) inForce⟩

end FleetSearch.Search
