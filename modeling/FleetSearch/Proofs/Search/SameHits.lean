import FleetSearch.Proofs.Search.AnyCache

/-! The cache has no say in a search but by what is found in it: searches with the same hits and the
same events have the same result and make the same calls, with whatever else the cache does. -/

namespace FleetSearch.Search

open FleetSearch.Cache (Access Exchange Lifetime Place)
open FleetSearch.Inventory (Collection)

/-- The same searches with another cache, or with none. -/
def Finder.caching (finder : Finder) (isCaching : Bool) (lifetime : Lifetime) : Finder :=
  { finder with isCaching, lifetime }

theorem Finder.leaders_caching (finder : Finder) (isCaching : Bool) (lifetime : Lifetime)
    (seen : List TargetKey) (identifiers : List String) :
    (finder.caching isCaching lifetime).leaders seen identifiers =
      finder.leaders seen identifiers :=
  leaders_congr fun _ => rfl

theorem Finder.refusalFrom_caching (finder : Finder) (isCaching : Bool) (lifetime : Lifetime)
    (seen : List TargetKey) (identifiers : List String) :
    (finder.caching isCaching lifetime).refusalFrom seen identifiers =
      finder.refusalFrom seen identifiers := by
  induction identifiers generalizing seen with
  | nil => rfl
  | cons identifier rest ih =>
    simp only [refusalFrom_cons, ih]
    rfl

theorem Finder.refusal?_caching (finder : Finder) (isCaching : Bool) (lifetime : Lifetime)
    (request : Request) :
    (finder.caching isCaching lifetime).refusal? request = finder.refusal? request := by
  unfold refusal?
  cases request.identifiers with
  | nil => rfl
  | cons identifier rest => exact finder.refusalFrom_caching ..

/-- What the result of a preparation takes from an entry. -/
def Entry.view (pattern : String) (entry : Entry) : Query × Option Collection :=
  (entry.query pattern, entry.found)

theorem Plan.extend_congr {entries others : List Entry} (pattern : String)
    (same : entries.map (Entry.view pattern) = others.map (Entry.view pattern)) (plan : Plan) :
    plan.extend pattern entries = plan.extend pattern others := by
  have hits (entries : List Entry) : entries.flatMap (fun entry => entry.found.getD []) =
      (entries.map (Entry.view pattern)).flatMap fun seen => seen.2.getD [] := by
    simp [List.flatMap_map, Entry.view]
  have pending (entries : List Entry) :
      (entries.filter fun entry => entry.found.isNone).map (·.query pattern) =
        ((entries.map (Entry.view pattern)).filter fun seen => seen.2.isNone).map Prod.fst := by
    simp [List.filter_map, Entry.view, Function.comp_def]
  unfold Plan.extend
  rw [hits, hits others, pending, pending others, same]

section Plans

variable {finder : Finder} {request : Request} {entries others : List Entry} {isCaching : Bool}
  {lifetime : Lifetime}

/-- An entry has the answer that the cache gave for its place. -/
theorem Prepared.found_eq_some_iff (prepared : Prepared finder request entries) {entry : Entry}
    (member : entry ∈ entries) {items : Collection} :
    entry.found = some items ↔ ((entry.query request.pattern).place, items) ∈
      entries.filterMap fun entry =>
        entry.found.map ((entry.query request.pattern).place, ·) := by
  constructor
  · intro found
    exact List.mem_filterMap.mpr ⟨entry, member, by rw [found]; rfl⟩
  · intro present
    obtain ⟨other, others, same⟩ := List.mem_filterMap.mp present
    obtain ⟨kept, found, same⟩ := Option.map_eq_some_iff.mp same
    obtain ⟨place, rfl⟩ := Prod.mk.inj same
    have named : other.identifier = entry.identifier := congrArg Place.bucket place
    rw [← List.inj_on_of_nodup_map prepared.distinct others member named]
    exact found

/-- Preparations with the same hits give the same plan. -/
theorem Prepared.view_eq (first : Prepared finder request entries)
    (second : Prepared (finder.caching isCaching lifetime) request others)
    (alike : ∀ place items,
      (place, items) ∈ (entries.filterMap fun entry =>
          entry.found.map ((entry.query request.pattern).place, ·)) ↔
        (place, items) ∈ (others.filterMap fun entry =>
          entry.found.map ((entry.query request.pattern).place, ·))) :
    entries.map (Entry.view request.pattern) = others.map (Entry.view request.pattern) := by
  have matched : entries.map (fun entry => (entry.key, entry.identifier)) =
      others.map fun entry => (entry.key, entry.identifier) :=
    first.matched.trans (second.matched.trans (finder.leaders_caching ..)).symm
  refine List.ext_getElem? fun index => ?_
  have here := congrArg (fun list => list[index]?) matched
  simp only [List.getElem?_map] at here ⊢
  cases left : entries[index]? with
  | none => cases right : others[index]? <;> simp [left, right] at here ⊢
  | some entry =>
    cases right : others[index]? with
    | none => simp [left, right] at here
    | some other =>
      have member := List.mem_of_getElem? left
      have present := List.mem_of_getElem? right
      obtain ⟨-, named⟩ : entry.key = other.key ∧ entry.identifier = other.identifier := by
        simpa [left, right] using here
      have built : entry.backend = other.backend := by
        have one := (first.sound entry member).built
        have two := (second.sound other present).built
        rw [named] at one
        exact Option.some.inj (one.symm.trans two)
      have query : entry.query request.pattern = other.query request.pattern := by
        simp [Entry.query, named, built]
      have found : entry.found = other.found := by
        ext items
        rw [first.found_eq_some_iff member, second.found_eq_some_iff present, alike, query]
      simp [Entry.view, query, found]

/-- A preparation that hears the same hits from another cache comes to the same plan. -/
theorem Finder.plan_eq {first second log seen : List Exchange} {plan other : Plan}
    (led : (finder.plan request).Leads first (.done (.ok plan)))
    (leads : ((finder.caching isCaching lifetime).plan request).Leads second (.done (.ok other)))
    (unread : ∀ place reply, Exchange.select place reply ∉ log)
    (unseen : ∀ place reply, Exchange.select place reply ∉ seen)
    (alike : finder.readsCache request = true ∨
      (finder.caching isCaching lifetime).readsCache request = true → ∀ place items,
        (place, items) ∈ hits (first ++ log) ↔ (place, items) ∈ hits (second ++ seen)) :
    plan = other := by
  obtain ⟨entries, prepared, rfl, rfl⟩ := Finder.plan_leads led
  obtain ⟨others, ready, rfl, rfl⟩ := Finder.plan_leads leads
  rw [hits_of_entries prepared.sound unread, hits_of_entries ready.sound unseen] at alike
  refine Plan.extend_congr _ (prepared.view_eq ready ?_) {}
  by_cases reads : finder.readsCache request = true ∨
      (finder.caching isCaching lifetime).readsCache request = true
  · exact alike reads
  · rw [not_or, Bool.not_eq_true, Bool.not_eq_true] at reads
    have unfound (entry : Entry) (member : entry ∈ entries) : entry.found = none :=
      ((prepared.sound entry member).unread reads.1).2
    have nothing (entry : Entry) (member : entry ∈ others) : entry.found = none :=
      ((ready.sound entry member).unread reads.2).2
    intro place items
    simp only [List.mem_filterMap]
    constructor
    · rintro ⟨entry, member, same⟩
      simp [unfound entry member] at same
    · rintro ⟨entry, member, same⟩
      simp [nothing entry member] at same

end Plans

/-- Searches with the same hits are refused for one reason or live with one plan. -/
private theorem Recounts.alike {finder : Finder} {request : Request}
    {earlier calls asked : List Call} {order early : List Event}
    {log seen : List Exchange} {isCancelled warned isCaching : Bool}
    {lifetime : Lifetime} {stage next : Stage}
    (first : Recounts finder request earlier order log isCancelled stage calls)
    (settled : ∀ access, stage ≠ .preparing access)
    (second : Recounts (finder.caching isCaching lifetime) request earlier early seen warned next
      asked)
    (ready : ∀ access, next ≠ .preparing access)
    (alike : finder.readsCache request = true ∨
      (finder.caching isCaching lifetime).readsCache request = true → ∀ place items,
        (place, items) ∈ hits log ↔ (place, items) ∈ hits seen) :
    (∃ error, stage = .refused error ∧ next = .refused error ∧ calls = earlier ∧ asked = earlier ∧
      ∀ event ∈ order, event = .cancel) ∨
    ∃ plan live last, stage = .live live ∧ next = .live last ∧
      (live.outline = (Plan.played finder plan request.pattern earlier order).1 ∧
        calls = (Plan.played finder plan request.pattern earlier order).2.calls) ∧
      (last.outline = (Plan.played finder plan request.pattern earlier early).1 ∧
        asked = (Plan.played finder plan request.pattern earlier early).2.calls) ∧
      ∀ millis, .wait millis ∉ order := by
  cases first with
  | preparing => exact absurd rfl (settled _)
  | refused led warned =>
    have refusal := Finder.refusal?_of_leads led
    rw [← finder.refusal?_caching isCaching lifetime] at refusal
    cases second with
    | preparing => exact absurd rfl (ready _)
    | refused leads =>
      cases refusal.symm.trans (Finder.refusal?_of_leads leads)
      exact .inl ⟨_, rfl, rfl, rfl, rfl, warned.1⟩
    | live leads => cases refusal.symm.trans (Finder.refusal?_of_leads leads)
  | live led unread keeps played called timeless =>
    cases second with
    | preparing => exact absurd rfl (ready _)
    | refused leads =>
      have refusal := Finder.refusal?_of_leads leads
      rw [finder.refusal?_caching isCaching lifetime] at refusal
      cases refusal.symm.trans (Finder.refusal?_of_leads led)
    | live leads unseen keeping followed asked =>
      obtain rfl := Finder.plan_eq led leads unread unseen alike
      exact .inr ⟨_, _, _, rfl, rfl, ⟨played, called⟩, ⟨followed, asked⟩, timeless⟩

namespace Proceeds

variable {finder : Finder} {request : Request} {earlier calls : List Call}
  {situation : Situation} {count : Nat} {order : List Event} {log : List Exchange} {run : Run}

section Follow

variable {live : Live}

private theorem follow_write {place : Nat} {task : Task} {items : Collection}
    {access : Access (Except Cache.CacheError Unit)} {exchange : Exchange}
    (proceeds : Proceeds finder request earlier situation count order log run calls)
    (staged : run.stage = .live live) (found : live.tasks[place]? = some task)
    (writing : task.progress = .writing items access)
    (made : access.exchange? (situation.now count) (situation.store count) = some exchange) :
    ∃ log run next, Proceeds finder request earlier situation (count + 1) order log run calls ∧
      run.stage = .live next ∧ next.outline = live.outline ∧
      next.tasks[place]? = some { task with
        progress := .writing items
          (access.step (situation.now count) (situation.store count)).1 } := by
  have silent : live.isSilent (.work place) = true := by
    cases access with
    | done result => cases made
    | _ => simp [Live.isSilent, found, writing, Progress.isWriting]
  obtain ⟨log, stepped⟩ := proceeds.happen staged (.work place)
  obtain ⟨outline, called⟩ :=
    @Finder.step_silent run.finder live (.work place) (situation.shared count calls) silent
  rw [called, if_pos silent, List.append_nil] at stepped
  refine ⟨log, _, _, stepped, rfl, outline, ?_⟩
  cases access with
  | done result => cases made
  | _ => simp [Finder.step, Finder.work, found, writing, Live.withProgress, Situation.shared]

/-- Whatever the cache answers, a write comes to its end, and nobody sees more of it. -/
private theorem follow_writing {place : Nat} {task : Task} {items : Collection}
    {access : Access (Except Cache.CacheError Unit)}
    (proceeds : Proceeds finder request earlier situation count order log run calls)
    (staged : run.stage = .live live) (found : live.tasks[place]? = some task)
    (writing : task.progress = .writing items access) :
    ∃ count log run next, Proceeds finder request earlier situation count order log run calls ∧
      run.stage = .live next ∧ next.outline = live.outline ∧
      next.isSilent (.work place) = false := by
  induction access using Access.step_induction generalizing count log run live task with
  | next access ih =>
    cases made : access.exchange? (situation.now count) (situation.store count) with
    | none =>
      obtain ⟨⟨result, rfl⟩, _⟩ := Access.step_of_no_exchange made
      exact ⟨count, log, run, live, proceeds, staged, rfl,
        by simp [Live.isSilent, found, writing, Progress.isWriting]⟩
    | some exchange =>
      obtain ⟨_, _, _, next, live, same, there⟩ := proceeds.follow_write staged found writing made
      obtain ⟨_, _, _, _, last, stays, equal, visible⟩ := ih _ _ _ made next live there rfl
      exact ⟨_, _, _, _, last, stays, equal.trans same, visible⟩

/-- A live search can let any event happen, once no write is in its way. -/
private theorem follow_event {event : Event}
    (proceeds : Proceeds finder request earlier situation count order log run calls)
    (staged : run.stage = .live live) (timeless : ∀ millis, event ≠ .wait millis)
    (shared : Shared) (called : shared.calls = calls) :
    ∃ count log run next calls',
      Proceeds finder request earlier situation count (order ++ [event]) log run calls' ∧
      run.stage = .live next ∧
      next.outline = (finder.withoutCache.step event live.outline shared).1 ∧
      calls' = (finder.withoutCache.step event live.outline shared).2.calls := by
  obtain ⟨count, log, run, next, proceeds, staged, outline, visible⟩ :
      ∃ count log run next, Proceeds finder request earlier situation count order log run calls ∧
        run.stage = .live next ∧ next.outline = live.outline ∧ next.isSilent event = false := by
    cases silent : live.isSilent event with
    | false => exact ⟨count, log, run, live, proceeds, staged, rfl, silent⟩
    | true =>
      cases event with
      | wait millis => exact absurd rfl (timeless millis)
      | work place =>
        obtain ⟨task, found, writing⟩ := Live.isSilent_work_iff.mp silent
        obtain ⟨items, access, writing⟩ := Progress.writing_of_isWriting writing
        exact proceeds.follow_writing staged found writing
      | _ => cases silent
  obtain ⟨log, stepped⟩ := proceeds.happen staged event
  rw [visible, if_neg (by simp)] at stepped
  obtain ⟨same, asked⟩ := @Finder.step_visible run.finder next event
    (situation.shared count calls) shared visible called
  rw [proceeds.recounts.1.1] at same asked stepped
  exact ⟨_, _, _, _, _, stepped, rfl, outline ▸ same, outline ▸ asked⟩

private theorem follow_live {events : List Event}
    (proceeds : Proceeds finder request earlier situation count order log run calls)
    (staged : run.stage = .live live) (timeless : ∀ millis, .wait millis ∉ events)
    (shared : Shared) (called : shared.calls = calls) :
    ∃ count log run next calls',
      Proceeds finder request earlier situation count (order ++ events) log run calls' ∧
      run.stage = .live next ∧
      next.outline = (finder.withoutCache.history events live.outline shared).1 ∧
      calls' = (finder.withoutCache.history events live.outline shared).2.calls := by
  induction events generalizing count order log run live calls shared with
  | nil =>
    exact ⟨count, log, run, live, calls, by simpa using proceeds, staged, rfl, called.symm⟩
  | cons event rest ih =>
    have first : ∀ millis, event ≠ .wait millis :=
      fun millis same => timeless millis (same ▸ List.mem_cons_self)
    obtain ⟨_, _, _, next, _, proceeds, staged, outline, calls⟩ :=
      proceeds.follow_event staged first shared called
    obtain ⟨_, _, _, last, _, followed, ended, same, asked⟩ := ih proceeds staged
      (fun millis member => timeless millis (List.mem_cons_of_mem _ member))
      (finder.withoutCache.step event live.outline shared).2 calls.symm
    rw [outline] at same asked
    exact ⟨_, _, _, last, _, by simpa using followed, ended, same, asked⟩

private theorem follow_refused {events : List Event} {error : SearchError}
    (proceeds : Proceeds finder request earlier situation count order log run calls)
    (staged : run.stage = .refused error) (cancels : ∀ event ∈ events, event = .cancel) :
    ∃ count log run,
      Proceeds finder request earlier situation count (order ++ events) log run calls ∧
      run.stage = .refused error := by
  induction events generalizing count order log run with
  | nil => exact ⟨count, log, run, by simpa using proceeds, staged⟩
  | cons event rest ih =>
    obtain rfl := cancels event List.mem_cons_self
    have stepped := proceeds.step (.happen .cancel)
    simp only [Run.step, Run.shown, staged] at stepped
    obtain ⟨_, _, _, followed, ended⟩ :=
      ih stepped staged fun event member => cancels event (List.mem_cons_of_mem _ member)
    exact ⟨_, _, _, by simpa using followed, ended⟩

end Follow

/-- Two searches for the same with the same hits end alike after the same events, whatever their
caches hold and whatever becomes of their writes; and the second one can always follow the first. -/
theorem result_of_hits {isCaching : Bool} {lifetime : Lifetime} {other : Situation}
    {steps : Nat} {early : List Event} {seen : List Exchange} {next : Run} {asked : List Call}
    (first : Proceeds finder request earlier situation count order log run calls)
    (settled : run.IsSettled)
    (second : Proceeds (finder.caching isCaching lifetime) request earlier other steps early seen
      next asked)
    (ready : next.IsSettled)
    (alike : finder.readsCache request = true ∨
      (finder.caching isCaching lifetime).readsCache request = true → ∀ place items,
        (place, items) ∈ hits log ↔ (place, items) ∈ hits seen) :
    (early = order → next.result? = run.result? ∧ asked = calls) ∧
    ∀ rest, order = early ++ rest → ∃ count log last,
      Proceeds (finder.caching isCaching lifetime) request earlier other count order log last
        calls ∧ last.result? = run.result? := by
  rcases first.recounts.2.alike settled second.recounts.2 ready alike with
    ⟨error, refused, same, rfl, rfl, cancels⟩ |
    ⟨plan, live, last, staged, same, ⟨played, rfl⟩, ⟨followed, rfl⟩, timeless⟩
  · refine ⟨fun _ => ⟨by simp [Run.result?, refused, same], rfl⟩, fun rest split => ?_⟩
    obtain ⟨count, log, last, reached, ended⟩ := second.follow_refused same
      fun event member => cancels event (split ▸ List.mem_append_right early member)
    exact ⟨count, log, last, split ▸ reached, by simp [Run.result?, refused, ended]⟩
  · refine ⟨?_, fun rest split => ?_⟩
    · rintro rfl
      refine ⟨?_, rfl⟩
      rw [Run.result?, Run.result?, staged, same]
      exact (last.outline_result?.symm.trans (by rw [followed, played])).trans live.outline_result?
    · obtain ⟨count, log, final, ended, calls, reached, live', outline, asked⟩ :=
        second.follow_live same
          (fun millis member => timeless millis (split ▸ List.mem_append_right early member))
          (Plan.played finder plan request.pattern earlier early).2 rfl
      have whole : (finder.caching isCaching lifetime).withoutCache.history rest last.outline
          (Plan.played finder plan request.pattern earlier early).2 =
          Plan.played finder plan request.pattern earlier order := by
        rw [followed, split]
        simp only [Plan.played, Finder.history, List.foldl_append]
        rfl
      rw [whole] at outline asked
      refine ⟨count, log, final, ?_, ?_⟩
      · rwa [← split, asked] at reached
      · rw [Run.result?, Run.result?, staged, live']
        exact (ended.outline_result?.symm.trans (by rw [outline, played])).trans
          live.outline_result?

end Proceeds

/-- A cache with a text that spells nothing in the place of the first target. -/
def corrupted : Situation :=
  ⟨fun _ => 0, fun _ => { rows := [(⟨"h", "web"⟩, ⟨"[", none⟩)] }⟩

/-- A cache that cannot be used. -/
def broken : Situation :=
  ⟨fun _ => 0, fun _ => { isOpen := false }⟩

/-- A search that passes over a corrupt entry, and one that fails to read and to write. -/
theorem result_of_hits_hosts : ∃ count order log run calls,
    Proceeds hostsFinder hostsRequest [] corrupted count order log run calls ∧
    run.result? = some (.ok (oneHost ++ oneHost)) ∧ calls.length = 2 ∧
    ∃ count log last,
      Proceeds (hostsFinder.caching true ⟨1⟩) hostsRequest [] broken count order log last calls ∧
      last.result? = some (.ok (oneHost ++ oneHost)) := by
  have prepared : Proceeds hostsFinder hostsRequest [] corrupted _ _ _ _ _ :=
    (((Proceeds.start.step .prepare).step .prepare).step .prepare).step .prepare
  have asked := (prepared.step (.happen (.work 0))).step (.happen (.work 1))
  have first := (((asked.step (.happen (.work 0))).step (.happen (.work 0))).step
    (.happen (.work 0))).step (.happen (.work 0))
  have second := (((first.step (.happen (.work 1))).step (.happen (.work 1))).step
    (.happen (.work 1))).step (.happen (.work 1))
  have joined := (second.step (.happen (.join 0))).step (.happen (.join 1))
  have ready : Proceeds (hostsFinder.caching true ⟨1⟩) hostsRequest [] broken _ _ _ _ _ :=
    ((Proceeds.start.step .prepare).step .prepare).step .prepare
  refine ⟨_, _, _, _, _, joined, rfl, rfl, ?_⟩
  exact (joined.result_of_hits nofun ready nofun fun _ _ _ => Iff.rfl).2 _ rfl

end FleetSearch.Search
