import FleetSearch.Proofs.Backend.Registry
import FleetSearch.Proofs.Search.Clock
import FleetSearch.Proofs.Search.Refusal

/-! Searches for the same targets. It does not matter in which order a request names its targets,
how often, and by which of their names: one search succeeds if the other does, with the same
instances, after the same calls. -/

namespace FleetSearch.Search

open FleetSearch.Backend (Registry)
open FleetSearch.Cache (Exchange)
open FleetSearch.Inventory (Collection)

namespace Finder

variable {finder : Finder} {identifier : String} {key : TargetKey} {first second : Request}

/-- The backend that is built for a target. -/
def built? (finder : Finder) (key : TargetKey) : Option Backend :=
  (finder.registry.find key.1).toOption.bind fun descriptor =>
    (finder.instantiate key.1 ⟨descriptor, key.2⟩).toOption

/-- But for the errors, it does not matter by which name a backend is built. -/
theorem instantiate_toOption (finder : Finder) (identifier other : String)
    (target : Config.Target) :
    (finder.instantiate identifier target).toOption =
      (finder.instantiate other target).toOption := by
  unfold instantiate
  split
  · rfl
  · split <;> rfl

theorem exists_find_of_target {target : Config.Target}
    (aimed : finder.resolver.target finder.registry identifier = .ok target) :
    ∃ name, finder.registry.find name = .ok target.descriptor := by
  have registered {name : String} {make : Backend.Descriptor → Config.Target}
      (keeps : ∀ descriptor, (make descriptor).descriptor = descriptor)
      (found : (finder.registry.find name).map make = .ok target) :
      finder.registry.find name = .ok target.descriptor := by
    cases here : finder.registry.find name with
    | error error => simp [here, Except.map] at found
    | ok descriptor =>
      simp only [here, Except.map, Except.ok.injEq] at found
      rw [← found, keeps]
  unfold Config.Resolver.target at aimed
  split at aimed
  · exact ⟨_, registered (fun _ => rfl) aimed⟩
  · exact ⟨_, registered (fun _ => rfl) aimed⟩

/-- What is built for an identifier depends on its target alone, since in a registry that was built
the name of a backend leads to no other one. -/
theorem backend?_eq_built? (built : finder.registry.Built)
    (named : finder.key? identifier = some key) :
    finder.backend? identifier = finder.built? key := by
  unfold key? at named
  unfold backend? built?
  cases aimed : finder.resolver.target finder.registry identifier with
  | error error => simp [aimed, Except.toOption] at named
  | ok target =>
    obtain ⟨name, found⟩ := exists_find_of_target aimed
    have again : finder.registry.find target.descriptor.name = .ok target.descriptor :=
      built.find_of_answersTo (Registry.mem_of_find found).1 (Registry.answersTo_iff.mpr (.inl rfl))
    simp only [aimed, Except.toOption, Option.map_some, Option.some.injEq] at named
    subst named
    simpa [again, Except.toOption] using finder.instantiate_toOption identifier _ target

/-- Whether two requests name the same targets, and both or none of them something unknown. -/
def SameTargets (finder : Finder) (first second : Request) : Prop :=
  ∀ key, key ∈ first.identifiers.map finder.key? ↔ key ∈ second.identifiers.map finder.key?

namespace SameTargets

theorem symm (same : finder.SameTargets first second) : finder.SameTargets second first :=
  fun key => (same key).symm

theorem exists_alias (same : finder.SameTargets first second)
    (member : identifier ∈ second.identifiers) :
    ∃ other ∈ first.identifiers, finder.key? other = finder.key? identifier :=
  List.mem_map.mp ((same _).mpr (List.mem_map_of_mem member))

theorem targets_perm (same : finder.SameTargets first second) :
    (finder.targets first).Perm (finder.targets second) := by
  refine (List.perm_ext_iff_of_nodup (List.nodup_dedup _) (List.nodup_dedup _)).mpr fun key => ?_
  rw [List.mem_dedup, List.mem_dedup, List.mem_filterMap, List.mem_filterMap,
    ← List.mem_map, ← List.mem_map]
  exact same (some key)

theorem backends (same : finder.SameTargets first second) (built : finder.registry.Built)
    {Holds : Backend → Prop}
    (holds : ∀ identifier ∈ first.identifiers, ∀ backend,
      finder.backend? identifier = some backend → Holds backend) :
    ∀ identifier ∈ second.identifiers, ∀ backend,
      finder.backend? identifier = some backend → Holds backend := by
  intro identifier member backend made
  obtain ⟨other, present, named⟩ := same.exists_alias member
  cases aimed : finder.key? identifier with
  | none =>
    rw [key?, Option.map_eq_none_iff] at aimed
    simp [backend?, aimed] at made
  | some key =>
    rw [aimed] at named
    rw [backend?_eq_built? built aimed, ← backend?_eq_built? built named] at made
    exact holds other present backend made

theorem ready (same : finder.SameTargets first second) (built : finder.registry.Built)
    (ready : finder.refusal? first = none) : finder.refusal? second = none := by
  obtain ⟨nonempty, known, made⟩ := refusal?_eq_none_iff.mp ready
  refine refusal?_eq_none_iff.mpr ⟨?_, ?_, ?_⟩
  · obtain ⟨identifier, member⟩ := List.exists_mem_of_ne_nil _ nonempty
    obtain ⟨other, present, _⟩ := same.symm.exists_alias member
    exact List.ne_nil_of_mem present
  · intro identifier member
    obtain ⟨other, present, named⟩ := same.exists_alias member
    exact named ▸ known other present
  · rintro ⟨key, identifier⟩ member
    have named := (key?_of_mem_leaders member).1
    have target : key ∈ (finder.leaders [] first.identifiers).map Prod.fst := by
      rw [(finder.leaders_perm_targets first).mem_iff, same.targets_perm.mem_iff,
        ← (finder.leaders_perm_targets second).mem_iff]
      exact List.mem_map_of_mem member
    obtain ⟨⟨_, other⟩, present, rfl⟩ := List.mem_map.mp target
    rw [backend?_eq_built? built named,
      ← backend?_eq_built? built (key?_of_mem_leaders present).1]
    exact made _ present

end SameTargets

end Finder

theorem count_callsFor (calls : List Call) (call : Call) :
    (callsFor calls call.identifier).count call = calls.count call :=
  List.count_filter (by simp)

/-- Calls are the same, in some order, if they are the same for every identifier. -/
theorem perm_of_callsFor {calls other : List Call}
    (same : ∀ identifier, callsFor calls identifier = callsFor other identifier) :
    calls.Perm other := by
  refine List.perm_iff_count.mpr fun call => ?_
  rw [← count_callsFor, same, count_callsFor]

theorem callsFor_queries_of_notMem {queries : List Query} (pattern : String) {identifier : String}
    (outside : identifier ∉ queries.map Query.identifier) :
    callsFor (queries.map (·.call pattern)) identifier = [] := by
  refine List.filter_eq_nil_iff.mpr fun call member => ?_
  obtain ⟨query, present, rfl⟩ := List.mem_map.mp member
  rw [beq_iff_eq]
  rintro rfl
  exact outside (List.mem_map_of_mem present)

/-- Among queries with different identifiers, each is the only one for its own. -/
theorem callsFor_queries {queries : List Query} (pattern : String)
    (distinct : (queries.map Query.identifier).Nodup) {query : Query} (member : query ∈ queries) :
    callsFor (queries.map (·.call pattern)) query.identifier = [query.call pattern] := by
  induction queries with
  | nil => cases member
  | cons first rest ih =>
    obtain ⟨apart, distinct⟩ := List.nodup_cons.mp distinct
    rcases List.mem_cons.mp member with rfl | later
    · rw [List.map_cons, callsFor, List.filter_cons_of_pos (by simp [Query.call])]
      exact congrArg _ (callsFor_queries_of_notMem pattern apart)
    · have different : query.identifier ≠ (first.call pattern).identifier := by
        intro same
        have first : query.identifier = first.identifier := same
        exact apart (first ▸ List.mem_map_of_mem later)
      rw [List.map_cons, callsFor_cons_of_ne different]
      exact ih distinct later

/-- The instances that a backend returns for a pattern, if it does. -/
def answer (backend : Backend) (pattern : String) : Collection :=
  match (backend.list pattern 0).ending with
  | .returns items => items
  | _ => []

/-- Whether what the backends of a request return does not depend on when they are asked. -/
def Finder.Steady (finder : Finder) (request : Request) : Prop :=
  ∀ identifier ∈ request.identifiers, ∀ backend, finder.backend? identifier = some backend →
    ∀ count, (backend.list request.pattern count).ending = (backend.list request.pattern 0).ending

/-- What is asked in a call: the target, the backend and the pattern. -/
def Finder.aim (finder : Finder) (call : Call) : Option TargetKey × String × String :=
  (finder.key? call.identifier, call.backend, call.pattern)

/-- What comes of a search that nobody interrupts, in whatever order things happen and whatever the
cache is: the calls that it makes and its result. -/
def Finder.Ends (finder : Finder) (request : Request) (made : List Call)
    (result : Except SearchError Collection) : Prop :=
  ∃ earlier situation count order log run,
    Proceeds finder request earlier situation count order log run (made ++ earlier) ∧
      .cancel ∉ order ∧ run.result? = some result

theorem Proceeds.called {finder : Finder} {request : Request} {earlier calls : List Call}
    {situation : Situation} {count : Nat} {order : List Event} {log : List Exchange} {run : Run}
    (proceeds : Proceeds finder request earlier situation count order log run calls) :
    ∃ made, calls = made ++ earlier := by
  have recounts := proceeds.recounts.2
  generalize run.stage = stage at recounts
  cases recounts with
  | preparing => exact ⟨[], rfl⟩
  | refused => exact ⟨[], rfl⟩
  | @live _ _ _ plan _ _ _ _ _ _ called =>
    obtain ⟨made, asked, _⟩ := plan.played_blames finder request.pattern earlier order
    exact ⟨made, called.trans asked⟩

/-- As far as a search can be seen, nobody has interrupted it. -/
theorem Proceeds.cancel_notMem {finder : Finder} {request : Request} {earlier calls : List Call}
    {situation : Situation} {count : Nat} {order : List Event} {log : List Exchange} {run : Run}
    (proceeds : Proceeds finder request earlier situation count order log run calls)
    (calm : run.IsCalm) : .cancel ∉ order := by
  have warned {isCancelled : Bool} (quiet : isCancelled = false)
      (warned : Warned order isCancelled) : .cancel ∉ order := by
    have nothing : order = [] := by simpa [quiet] using warned.2
    simp [nothing]
  obtain ⟨uninterrupted, quiet⟩ := calm
  cases staged : run.stage with
  | live live => simp [← proceeds.isCancelled_iff staged, quiet live staged]
  | preparing access =>
    have recounts := staged ▸ proceeds.recounts.2
    cases recounts with
    | preparing _ given => exact warned uninterrupted given
  | refused error =>
    have recounts := staged ▸ proceeds.recounts.2
    cases recounts with
    | refused _ given => exact warned uninterrupted given

section Ends

variable {finder : Finder} {request : Request} {made earlier calls : List Call} {items : Collection}
  {situation : Situation} {count : Nat} {order : List Event} {log : List Exchange} {run : Run}
  {result : Except SearchError Collection}

/-- A search without reads that succeeds makes one call for each target, and has what all of these
return. -/
theorem Proceeds.accounts
    (proceeds : Proceeds finder request earlier situation count order log run (made ++ earlier))
    (unread : finder.readsCache request = false) (ended : run.result? = some (.ok items)) :
    finder.refusal? request = none ∧
      ∃ (entries : List Entry) (accounts : List (Query × Collection)),
      Prepared finder request entries ∧
      (accounts.map Prod.fst).Perm (entries.map (Entry.query · request.pattern)) ∧
      (∀ account ∈ accounts, Answered earlier made request.pattern account.1 account.2) ∧
      items = accounts.flatMap Prod.snd ∧
      made.Perm ((entries.map (Entry.query · request.pattern)).map (·.call request.pattern)) := by
  have recounts := proceeds.recounts.2
  unfold Run.result? at ended
  cases staged : run.stage with
  | preparing access => simp [staged] at ended
  | refused error => simp [staged] at ended
  | live live =>
    rw [staged] at recounts ended
    generalize same : made ++ earlier = calls at recounts
    cases recounts with
    | live led unseen keeps played called =>
      obtain ⟨entries, prepared, _, rfl⟩ := Finder.plan_leads led
      have unfound : ∀ entry ∈ entries, entry.found = none := fun entry member =>
        ((prepared.sound entry member).unread unread).2
      have pending : (Plan.extend {} request.pattern entries).pending =
          entries.map (Entry.query · request.pattern) := by
        rw [Plan.extend_pending, List.filter_eq_self.mpr fun entry member => by
          simp [unfound entry member]]
      have distinct := prepared.pending_distinct request.pattern
      obtain ⟨asked, _, accounts, ledger⟩ :=
        Plan.played_ledger distinct finder request earlier order
      obtain rfl : made = asked :=
        List.append_cancel_right (same.trans (called.trans ledger.called))
      rw [← played] at ledger
      obtain ⟨rfl, settled, once⟩ := ledger.of_ok (live.outline_result?.trans ended)
      rw [pending] at settled distinct once
      refine ⟨Finder.refusal?_of_leads led, entries, accounts, prepared, settled, ledger.answered,
        ?_, perm_of_callsFor fun identifier => ?_⟩
      · have nothing : (Plan.extend {} request.pattern entries).hits.held = [] := by
          simpa [Plan.extend] using fun entry member => by simp [unfound entry member]
        rw [nothing, List.nil_append]
      · by_cases named : identifier ∈
            (entries.map (Entry.query · request.pattern)).map Query.identifier
        · obtain ⟨query, present, rfl⟩ := List.mem_map.mp named
          rw [(once query present).1, callsFor_queries request.pattern distinct present]
        · rw [callsFor_queries_of_notMem request.pattern named]
          exact (ledger.records.untouched identifier (pending ▸ named)).1

theorem Prepared.built?_key {entries : List Entry} {entry : Entry}
    (prepared : Prepared finder request entries) (built : finder.registry.Built)
    (member : entry ∈ entries) : finder.built? entry.key = some entry.backend := by
  have sound := prepared.sound entry member
  exact (Finder.backend?_eq_built? built sound.named).symm.trans sound.built

/-- What is returned to a steady search is what its backend returns at any time. -/
theorem Finder.Steady.answer_eq {entries : List Entry} {entry : Entry}
    (steady : finder.Steady request) (prepared : Prepared finder request entries)
    (member : entry ∈ entries)
    (answered : Answered earlier made request.pattern (entry.query request.pattern) items) :
    answer entry.backend request.pattern = items ∧
      ∀ count, (entry.backend.list request.pattern count).ending = .returns items := by
  have same := steady _ (prepared.mem_identifiers member) _ (prepared.sound entry member).built
  obtain ⟨_, ⟨_, _, _, rfl⟩, returned⟩ := answered
  have always : (entry.backend.list request.pattern 0).ending = .returns items :=
    (same _).symm.trans returned
  exact ⟨by rw [answer, always], fun count => (same count).trans always⟩

namespace Finder

/-- What a search for a target has of it. -/
def yield (finder : Finder) (pattern : String) (key : TargetKey) : Collection :=
  ((finder.built? key).map (answer · pattern)).getD []

/-- What a search for a target asks. -/
def aimAt (finder : Finder) (pattern : String) (key : TargetKey) :
    Option TargetKey × String × String :=
  (some key, ((finder.built? key).map Backend.name).getD "", pattern)

namespace Ends

/-- A search without reads has what its targets return, and asks each once. -/
theorem perm (ends : finder.Ends request made (.ok items)) (built : finder.registry.Built)
    (steady : finder.Steady request) (unread : finder.readsCache request = false) :
    items.Perm ((finder.targets request).flatMap (finder.yield request.pattern)) ∧
      (made.map finder.aim).Perm
        ((finder.targets request).map (finder.aimAt request.pattern)) := by
  obtain ⟨_, _, _, _, _, _, proceeds, _, ended⟩ := ends
  obtain ⟨_, entries, accounts, prepared, settled, answered, rfl, asked⟩ :=
    proceeds.accounts unread ended
  constructor
  · have returned : accounts.flatMap Prod.snd =
        (accounts.map Prod.fst).flatMap fun query => answer query.backend request.pattern := by
      rw [List.flatMap_map]
      refine List.flatMap_congr fun account member => ?_
      obtain ⟨entry, present, same⟩ :=
        List.mem_map.mp (settled.mem_iff.mp (List.mem_map_of_mem member))
      have given := answered account member
      rw [← same] at given ⊢
      exact (steady.answer_eq prepared present given).1.symm
    have shared : (entries.map (Entry.query · request.pattern)).flatMap
        (fun query => answer query.backend request.pattern) =
        (entries.map Entry.key).flatMap (finder.yield request.pattern) := by
      rw [List.flatMap_map, List.flatMap_map]
      refine List.flatMap_congr fun entry member => ?_
      simp [yield, prepared.built?_key built member, Entry.query]
    rw [returned]
    exact ((settled.flatMap_right _).trans (.of_eq shared)).trans
      (prepared.keys_perm_targets.flatMap_right _)
  · have aims : ((entries.map (Entry.query · request.pattern)).map
        (·.call request.pattern)).map finder.aim =
        (entries.map Entry.key).map (finder.aimAt request.pattern) := by
      simp only [List.map_map]
      refine List.map_congr_left fun entry member => ?_
      simp [aim, aimAt, Entry.query, Query.call, prepared.built?_key built member,
        (prepared.sound entry member).named]
    exact ((asked.map _).trans (.of_eq aims)).trans (prepared.keys_perm_targets.map _)

/-- A search without reads succeeds exactly if it can be prepared and its backends return
something. -/
theorem ok_iff (ends : finder.Ends request made result) (built : finder.registry.Built)
    (steady : finder.Steady request) (unread : finder.readsCache request = false) :
    (∃ items, result = .ok items) ↔
      finder.refusal? request = none ∧ finder.Returns request := by
  obtain ⟨_, _, _, _, _, run, proceeds, uninterrupted, ended⟩ := ends
  constructor
  · rintro ⟨items, rfl⟩
    obtain ⟨ready, entries, accounts, prepared, settled, answered, _⟩ :=
      proceeds.accounts unread ended
    refine ⟨ready, fun identifier member backend made count => ?_⟩
    obtain ⟨key, named⟩ :=
      Option.isSome_iff_exists.mp ((refusal?_eq_none_iff.mp ready).2.1 identifier member)
    have target : key ∈ finder.targets request :=
      List.mem_dedup.mpr (List.mem_filterMap.mpr ⟨identifier, member, named⟩)
    obtain ⟨entry, present, rfl⟩ :=
      List.mem_map.mp (prepared.keys_perm_targets.mem_iff.mpr target)
    obtain ⟨account, settled, same⟩ :=
      List.mem_map.mp (settled.mem_iff.mpr (List.mem_map_of_mem present))
    rw [backend?_eq_built? built named, prepared.built?_key built present] at made
    cases made
    exact ⟨account.2,
      (steady.answer_eq prepared present (same ▸ answered account settled)).2 count⟩
  · rintro ⟨ready, returns⟩
    have recounts := proceeds.recounts.2
    unfold Run.result? at ended
    cases staged : run.stage with
    | preparing access => simp [staged] at ended
    | refused error => cases ready.symm.trans (staged ▸ recounts).refusal?_eq
    | live live =>
      have calm : live.isCancelled = false := by
        rw [← Bool.not_eq_true, proceeds.isCancelled_iff staged]
        exact uninterrupted
      rw [staged] at ended
      obtain ⟨items, same⟩ := (proceeds.goesWell returns staged calm).ok (by simp [ended])
      exact ⟨items, Option.some.inj (ended.symm.trans same)⟩

/-- What a search along a calm schedule comes to. -/
theorem of_along {schedule : Nat → Move} (calm : Calm schedule)
    (ended : (finder.along request earlier situation schedule count).1.result? = some result) :
    ∃ made, (finder.along request earlier situation schedule count).2 = made ++ earlier ∧
      finder.Ends request made result := by
  obtain ⟨order, log, proceeds⟩ := finder.along_proceeds request earlier situation schedule count
  obtain ⟨made, called⟩ := proceeds.called
  refine ⟨made, called, earlier, situation, count, order, log, _, ?_,
    proceeds.cancel_notMem (along_isCalm calm count), ended⟩
  rwa [called] at proceeds

/-- What a search on the clock comes to. -/
theorem of_find {shared : Shared} (ended : (finder.find request none shared).1 = some result)
    (called : (finder.find request none shared).2.calls = made ++ shared.calls) :
    finder.Ends request made result := by
  obtain ⟨log, run, reached, calm, same⟩ := finder.find_calm request shared
  obtain ⟨situation, count, order, proceeds⟩ := reached.proceeds
  rw [called] at proceeds
  exact ⟨shared.calls, situation, count, order, _, run, proceeds, proceeds.cancel_notMem calm,
    same.trans ended⟩

end Ends

theorem find_called (finder : Finder) (request : Request) (shared : Shared) :
    ∃ made, (finder.find request none shared).2.calls = made ++ shared.calls := by
  obtain ⟨_, _, reached, _⟩ := finder.find_calm request shared
  obtain ⟨_, _, _, proceeds⟩ := reached.proceeds
  exact proceeds.called

end Finder

end Ends

section Same

variable {finder : Finder} {first second : Request} {made other : List Call}
  {items contents : Collection}

namespace Finder

/-- Whether two searches have the same success: one succeeds if the other does, and then they have
the same instances, in some order, and have asked the same. -/
def Agree (finder : Finder) (made other : List Call)
    (result last : Option (Except SearchError Collection)) : Prop :=
  ((∃ items, result = some (.ok items)) ↔ ∃ items, last = some (.ok items)) ∧
    ∀ items contents, result = some (.ok items) → last = some (.ok contents) →
      items.Perm contents ∧ (made.map finder.aim).Perm (other.map finder.aim)

namespace SameTargets

/-- A success of one search says that the other can be prepared and that its backends return
something. -/
theorem succeeds (same : finder.SameTargets first second) (built : finder.registry.Built)
    (asking : second.pattern = first.pattern) (steady : finder.Steady first)
    (unread : finder.readsCache first = false) (ends : finder.Ends first made (.ok items)) :
    finder.refusal? second = none ∧ finder.Returns second := by
  obtain ⟨ready, returns⟩ := (ends.ok_iff built steady unread).mp ⟨items, rfl⟩
  refine ⟨same.ready built ready, ?_⟩
  unfold Returns
  rw [asking]
  exact same.backends built returns

theorem steady (same : finder.SameTargets first second) (built : finder.registry.Built)
    (asking : second.pattern = first.pattern) (steady : finder.Steady first) :
    finder.Steady second := by
  unfold Steady
  rw [asking]
  exact same.backends built steady

/-- Two successes have the same instances and have asked the same. -/
theorem perm (same : finder.SameTargets first second) (built : finder.registry.Built)
    (asking : second.pattern = first.pattern) (steady : finder.Steady first)
    (unread : finder.readsCache first = false ∧ finder.readsCache second = false)
    (ends : finder.Ends first made (.ok items)) (others : finder.Ends second other (.ok contents)) :
    items.Perm contents ∧ (made.map finder.aim).Perm (other.map finder.aim) := by
  obtain ⟨yields, asked⟩ := ends.perm built steady unread.1
  obtain ⟨returns, called⟩ := others.perm built (same.steady built asking steady) unread.2
  rw [asking] at returns called
  exact ⟨(yields.trans (same.targets_perm.flatMap_right _)).trans returns.symm,
    (asked.trans (same.targets_perm.map _)).trans called.symm⟩

end SameTargets

end Finder

/-- Requests that name the same targets, in whatever order, how often, and by whichever names, come
to the same. If none of their searches reads the cache or is interrupted, and what the backends
return does not depend on when they are asked, then one search succeeds if and only if the other
does, with the same instances and the same calls: whichever courses they take to their ends, along
all fair schedules, and on the clock. -/
theorem Finder.same_of_targets (built : finder.registry.Built)
    (same : finder.SameTargets first second) (asking : second.pattern = first.pattern)
    (unread : finder.readsCache first = false ∧ finder.readsCache second = false)
    (steady : finder.Steady first) :
    (∀ made other result last, finder.Ends first made result → finder.Ends second other last →
      finder.Agree made other (some result) (some last)) ∧
    (∀ earlier before situation meanwhile schedule order, Fair schedule → Calm schedule →
      Fair order → Calm order →
      ((∃ count items, (finder.along first earlier situation schedule count).1.result? =
          some (.ok items)) ↔
        ∃ count items, (finder.along second before meanwhile order count).1.result? =
          some (.ok items))) ∧
    ∀ shared start, ∃ made other,
      (finder.find first none shared).2.calls = made ++ shared.calls ∧
      (finder.find second none start).2.calls = other ++ start.calls ∧
      finder.Agree made other (finder.find first none shared).1
        (finder.find second none start).1 := by
  have likewise := same.steady built asking steady
  have forth {made : List Call} {items : Collection}
      (ends : finder.Ends first made (.ok items)) :=
    same.succeeds built asking steady unread.1 ends
  have back {made : List Call} {items : Collection}
      (ends : finder.Ends second made (.ok items)) :=
    same.symm.succeeds built asking.symm likewise unread.2 ends
  refine ⟨?_, ?_, ?_⟩
  · intro made other result last ends others
    refine ⟨⟨?_, ?_⟩, ?_⟩
    · rintro ⟨items, ⟨⟩⟩
      obtain ⟨contents, rfl⟩ := (others.ok_iff built likewise unread.2).mpr (forth ends)
      exact ⟨contents, rfl⟩
    · rintro ⟨contents, ⟨⟩⟩
      obtain ⟨items, rfl⟩ := (ends.ok_iff built steady unread.1).mpr (back others)
      exact ⟨items, rfl⟩
    · rintro items contents ⟨⟩ ⟨⟩
      exact same.perm built asking steady unread ends others
  · intro earlier before situation meanwhile schedule order fair calm just quiet
    constructor
    · rintro ⟨count, items, ended⟩
      obtain ⟨_, _, ends⟩ := Ends.of_along calm ended
      exact along_succeeds just quiet (forth ends).1 (forth ends).2
    · rintro ⟨count, items, ended⟩
      obtain ⟨_, _, ends⟩ := Ends.of_along quiet ended
      exact along_succeeds fair calm (back ends).1 (back ends).2
  · intro shared start
    obtain ⟨made, called⟩ := finder.find_called first shared
    obtain ⟨other, asked⟩ := finder.find_called second start
    refine ⟨made, other, called, asked, ⟨?_, ?_⟩, ?_⟩
    · rintro ⟨items, ended⟩
      obtain ⟨ready, returns⟩ := forth (Ends.of_find ended called)
      exact find_succeeds ready returns start
    · rintro ⟨items, ended⟩
      obtain ⟨ready, returns⟩ := back (Ends.of_find ended asked)
      exact find_succeeds ready returns shared
    · intro items contents ended found
      exact same.perm built asking steady unread (.of_find ended called) (.of_find found asked)

end Same

/-- A request for two targets, past the cache. -/
def briefRequest : Request :=
  { backends := [" h", "west"], pattern := "web", noCache := true }

/-- A request for the same targets, the other way round and with one of them twice. -/
def wordyRequest : Request :=
  { backends := ["west", "hosts", "", "h "], pattern := "web", noCache := true }

example : (hostsFinder.targets briefRequest, hostsFinder.targets wordyRequest) =
    ([("hosts", "hosts"), ("hosts", "west")], [("hosts", "west"), ("hosts", "hosts")]) := by
  decide

/-- Everything in turn. -/
def inTurn (count : Nat) : Move :=
  roundRobin (count + 1)

theorem fair_inTurn : Fair inTurn := by
  have again {move : Move} (recurs : ∀ count, ∃ later, count ≤ later ∧ roundRobin later = move)
      (count : Nat) : ∃ later, count ≤ later ∧ inTurn later = move := by
    obtain ⟨later, past, comes⟩ := recurs (count + 1)
    exact ⟨later - 1, by omega, by rwa [inTurn, Nat.sub_add_cancel (by omega)]⟩
  exact ⟨again fair_roundRobin.prepares, fun place => again (fair_roundRobin.works place),
    fun place => again (fair_roundRobin.notices place)⟩

theorem calm_inTurn : Calm inTurn := by
  intro count
  simp only [inTurn, roundRobin]
  split <;> simp

/-- Both searches succeed, with one host for each target, and have asked the same. -/
theorem same_of_targets_hosts :
    hostsFinder.registry.Built ∧ hostsFinder.SameTargets briefRequest wordyRequest ∧
    hostsFinder.Steady briefRequest ∧
    (∃ made other contents, hostsFinder.Ends briefRequest made (.ok (oneHost ++ oneHost)) ∧
      hostsFinder.Ends wordyRequest other (.ok contents) ∧ (oneHost ++ oneHost).Perm contents ∧
      (made.map hostsFinder.aim).Perm (other.map hostsFinder.aim)) ∧
    (Fair inTurn ∧ Calm inTurn ∧ ∀ situation, ∃ count items,
      (hostsFinder.along wordyRequest [] situation inTurn count).1.result? = some (.ok items)) ∧
    ∃ items, (hostsFinder.find wordyRequest none {}).1 = some (.ok items) := by
  have added : Registry.ofDescriptors hostsFinder.registry.descriptors =
    .ok hostsFinder.registry := rfl
  have built : hostsFinder.registry.Built := .of_ofDescriptors added
  have same : hostsFinder.SameTargets briefRequest wordyRequest := by
    intro key
    have brief : briefRequest.identifiers.map hostsFinder.key? =
      [some ("hosts", "hosts"), some ("hosts", "west")] := by decide
    have wordy : wordyRequest.identifiers.map hostsFinder.key? =
      [some ("hosts", "west"), some ("hosts", "hosts"), some ("hosts", "hosts")] := by decide
    simp [brief, wordy, or_comm]
  have backends : ∀ identifier ∈ briefRequest.identifiers,
      hostsFinder.backend? identifier = some hosts := by
    have brief : briefRequest.identifiers = ["h", "west"] := by decide
    rw [brief]
    rintro identifier (_ | ⟨_, _ | ⟨_, ⟨⟩⟩⟩) <;> rfl
  have steady : hostsFinder.Steady briefRequest := by
    intro identifier member backend made count
    cases (backends identifier member).symm.trans made
    rfl
  have returns : hostsFinder.Returns briefRequest := by
    intro identifier member backend made count
    cases (backends identifier member).symm.trans made
    exact ⟨oneHost, rfl⟩
  obtain ⟨agree, along, find⟩ := Finder.same_of_targets built same rfl ⟨rfl, rfl⟩ steady
  have along (situation : Situation) : ∃ count items,
      (hostsFinder.along wordyRequest [] situation inTurn count).1.result? = some (.ok items) :=
    (along [] [] situation situation inTurn inTurn fair_inTurn calm_inTurn fair_inTurn
      calm_inTurn).mp (along_succeeds fair_inTurn calm_inTurn rfl returns)
  let situation : Situation := ⟨fun _ => 0, fun _ => {}⟩
  have begun : Proceeds hostsFinder briefRequest [] situation _ _ _ _ _ :=
    ((Proceeds.start.step .prepare).step (.happen (.work 0))).step (.happen (.work 1))
  have answered := (begun.step (.happen (.work 0))).step (.happen (.work 1))
  have written := (((answered.step (.happen (.work 0))).step (.happen (.work 0))).step
    (.happen (.work 1))).step (.happen (.work 1))
  have ended := (((written.step (.happen (.work 0))).step (.happen (.work 1))).step
    (.happen (.join 0))).step (.happen (.join 1))
  have ends : hostsFinder.Ends briefRequest [⟨"west", "hosts", "web"⟩, ⟨"h", "hosts", "web"⟩]
      (.ok (oneHost ++ oneHost)) := ⟨[], situation, _, _, _, _, ended, by decide, rfl⟩
  obtain ⟨count, contents, done⟩ := along situation
  obtain ⟨other, _, others⟩ := Finder.Ends.of_along calm_inTurn done
  obtain ⟨perm, asked⟩ := (agree _ _ _ _ ends others).2 _ _ rfl rfl
  obtain ⟨_, _, _, _, finds, _⟩ := find {} {}
  exact ⟨built, same, steady, ⟨_, other, contents, ends, others, perm, asked⟩,
    ⟨fair_inTurn, calm_inTurn, along⟩, finds.mp (Finder.find_succeeds rfl returns {})⟩

end FleetSearch.Search
