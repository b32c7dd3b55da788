import Mathlib.Data.List.Dedup
import FleetSearch.Proofs.Cache.Exchange
import FleetSearch.Search.Plan

/-! What the preparation of a search comes to: one entry for every target, made for the first
identifier with that target, either with what the cache holds or with a query. -/

namespace FleetSearch.Search

open FleetSearch.Cache (Access Exchange Place Reads)
open FleetSearch.Inventory (Collection)

namespace Finder

/-- The target that an identifier stands for. -/
def key? (finder : Finder) (identifier : String) : Option TargetKey :=
  (finder.resolver.target finder.registry identifier).toOption.map fun target =>
    (target.descriptor.name, target.part)

/-- The backend that is built for an identifier. -/
def backend? (finder : Finder) (identifier : String) : Option Backend :=
  (finder.resolver.target finder.registry identifier).toOption.bind fun target =>
    (finder.instantiate identifier target).toOption

/-- The targets of a request, each once. -/
def targets (finder : Finder) (request : Request) : List TargetKey :=
  (request.identifiers.filterMap finder.key?).dedup

/-- The targets that none of the earlier ones is, each with the first identifier that has it. -/
def leaders (finder : Finder) (seen : List TargetKey) : List String → List (TargetKey × String)
  | [] => []
  | identifier :: rest =>
    match finder.key? identifier with
    | none => finder.leaders seen rest
    | some key =>
      if seen.contains key then finder.leaders seen rest
      else (key, identifier) :: finder.leaders (key :: seen) rest

variable {finder : Finder} {seen : List TargetKey} {identifiers : List String}

theorem key?_of_mem_leaders {leader : TargetKey × String}
    (member : leader ∈ finder.leaders seen identifiers) :
    finder.key? leader.2 = some leader.1 ∧ leader.1 ∉ seen := by
  induction identifiers generalizing seen with
  | nil => simp [leaders] at member
  | cons identifier rest ih =>
    simp only [leaders, List.contains_iff_mem] at member
    split at member
    · exact ih member
    · rename_i key named
      split at member
      · exact ih member
      · rename_i fresh
        rcases List.mem_cons.mp member with same | member
        · subst same
          exact ⟨named, fresh⟩
        · obtain ⟨found, unseen⟩ := ih member
          exact ⟨found, fun earlier => unseen (List.mem_cons_of_mem _ earlier)⟩

theorem leaders_nodup : ((finder.leaders seen identifiers).map Prod.fst).Nodup := by
  induction identifiers generalizing seen with
  | nil => simp [leaders]
  | cons identifier rest ih =>
    simp only [leaders, List.contains_iff_mem]
    split
    · exact ih
    · rename_i key named
      split
      · exact ih
      · rw [List.map_cons, List.nodup_cons]
        refine ⟨?_, ih⟩
        intro again
        obtain ⟨leader, member, same⟩ := List.mem_map.mp again
        exact (key?_of_mem_leaders member).2 (same ▸ List.mem_cons_self ..)

theorem map_key?_leaders : ((finder.leaders seen identifiers).map Prod.snd).map finder.key? =
    ((finder.leaders seen identifiers).map Prod.fst).map some := by
  simp only [List.map_map]
  exact List.map_congr_left fun leader member => (key?_of_mem_leaders member).1

/-- Different leaders are different identifiers, since an identifier has one target. -/
theorem leaders_identifiers_nodup : ((finder.leaders seen identifiers).map Prod.snd).Nodup := by
  apply List.Nodup.of_map finder.key?
  rw [map_key?_leaders]
  exact leaders_nodup.map fun _ _ => Option.some.inj

theorem mem_leaders_iff {key : TargetKey} :
    key ∈ (finder.leaders seen identifiers).map Prod.fst ↔
      key ∈ identifiers.filterMap finder.key? ∧ key ∉ seen := by
  induction identifiers generalizing seen with
  | nil => simp [leaders]
  | cons identifier rest ih =>
    simp only [leaders, List.contains_iff_mem]
    split
    · rename_i unnamed
      simpa [List.filterMap_cons, unnamed] using ih
    · rename_i found named
      split
      · rename_i earlier
        rw [ih]
        simp only [List.filterMap_cons, named, List.mem_cons]
        constructor
        · intro ⟨member, fresh⟩
          exact ⟨.inr member, fresh⟩
        · rintro ⟨rfl | member, fresh⟩
          · exact absurd earlier fresh
          · exact ⟨member, fresh⟩
      · rename_i fresh
        rw [List.map_cons, List.mem_cons, ih]
        simp only [List.filterMap_cons, named, List.mem_cons]
        constructor
        · rintro (rfl | ⟨member, unseen⟩)
          · exact ⟨.inl rfl, fresh⟩
          · exact ⟨.inr member, fun earlier => unseen (.inr earlier)⟩
        · rintro ⟨same | member, unseen⟩
          · exact .inl same
          · by_cases same : key = found
            · exact .inl same
            · refine .inr ⟨member, ?_⟩
              rintro (rfl | earlier)
              · exact same rfl
              · exact unseen earlier

theorem find?_of_mem_leaders {key : TargetKey} {identifier : String}
    (member : (key, identifier) ∈ finder.leaders seen identifiers) :
    identifiers.find? (fun other => finder.key? other = some key) = some identifier := by
  induction identifiers generalizing seen with
  | nil => simp [leaders] at member
  | cons first rest ih =>
    have fresh := (key?_of_mem_leaders member).2
    simp only [leaders, List.contains_iff_mem] at member
    split at member
    · rename_i unnamed
      simpa [List.find?_cons, unnamed] using ih member
    · rename_i found named
      split at member
      · rename_i earlier
        have different : found ≠ key := fun same => fresh (same ▸ earlier)
        simpa [List.find?_cons, named, different] using ih member
      · rcases List.mem_cons.mp member with same | member
        · cases same
          simp [named]
        · have different : found ≠ key := fun same =>
            (key?_of_mem_leaders member).2 (same ▸ List.mem_cons_self ..)
          simpa [List.find?_cons, named, different] using ih member

theorem leaders_congr {other : Finder}
    (same : ∀ identifier, finder.key? identifier = other.key? identifier) :
    finder.leaders seen identifiers = other.leaders seen identifiers := by
  induction identifiers generalizing seen with
  | nil => rfl
  | cons identifier rest ih => simp only [leaders, same, ih]

/-- The leaders have the targets of a request, each once. -/
theorem leaders_perm_targets (finder : Finder) (request : Request) :
    ((finder.leaders [] request.identifiers).map Prod.fst).Perm (finder.targets request) := by
  apply (List.perm_ext_iff_of_nodup leaders_nodup (List.nodup_dedup _)).mpr
  intro key
  simp [mem_leaders_iff, List.mem_dedup]

end Finder

/-- What the preparation makes of a target. -/
structure Entry where
  key : TargetKey
  identifier : String
  backend : Backend
  /-- What the cache holds, if it was looked for and found. -/
  found : Option Collection
  /-- The exchanges of the look into the cache. -/
  log : List Exchange

namespace Entry

/-- The query that is made unless the cache has an answer. -/
def query (entry : Entry) (pattern : String) : Query :=
  ⟨entry.identifier, entry.backend.cacheKey pattern, entry.backend⟩

/-- Whether the entry is what a finder makes of its identifier. -/
structure Sound (finder : Finder) (request : Request) (entry : Entry) : Prop where
  named : finder.key? entry.identifier = some entry.key
  built : finder.backend? entry.identifier = some entry.backend
  read : finder.readsCache request = true → ∃ answer,
    Reads Collection.decode (entry.query request.pattern).place entry.log answer ∧
      entry.found = answer.toOption
  unread : finder.readsCache request = false → entry.log = [] ∧ entry.found = none

theorem Sound.readsOnly {finder : Finder} {request : Request} {entry : Entry}
    (sound : entry.Sound finder request) :
    ∀ exchange ∈ entry.log, exchange.ReadsOnly (entry.query request.pattern).place := by
  cases reading : finder.readsCache request with
  | true =>
    obtain ⟨answer, reads, _⟩ := sound.read reading
    exact reads.readsOnly
  | false => simp [(sound.unread reading).1]

/-- What was found in the cache is spelled by a row that was there. -/
theorem Sound.hit {finder : Finder} {request : Request} {entry : Entry} {items : Collection}
    (sound : entry.Sound finder request) (found : entry.found = some items) :
    ∃ row, .select (entry.query request.pattern).place (.ok (some row)) ∈ entry.log ∧
      Cache.spelled Collection.decode row.text = .ok items := by
  cases reading : finder.readsCache request with
  | true =>
    obtain ⟨answer, reads, same⟩ := sound.read reading
    rw [found] at same
    generalize entry.log = log at reads
    cases reads with
    | @inForce row now valid =>
      refine ⟨row, by simp, ?_⟩
      cases spelling : Cache.spelled Collection.decode row.text with
      | error => simp [spelling, Except.toOption] at same
      | ok value => simpa [spelling, Except.toOption] using same.symm
    | _ => simp [Except.toOption] at same
  | false => simp [(sound.unread reading).2] at found

end Entry

/-- A plan with what some more entries come to. -/
def Plan.extend (plan : Plan) (pattern : String) (entries : List Entry) : Plan :=
  { hits := ⟨plan.hits.held ++ entries.flatMap fun entry => entry.found.getD []⟩
    pending := plan.pending ++
      (entries.filter fun entry => entry.found.isNone).map (·.query pattern) }

theorem Plan.extend_extend (plan : Plan) (pattern : String) (first second : List Entry) :
    (plan.extend pattern first).extend pattern second = plan.extend pattern (first ++ second) := by
  simp [extend, List.append_assoc]

namespace Finder

variable {finder : Finder} {request : Request} {plan final : Plan} {log : List Exchange}

private theorem planned_leads {key : TargetKey} {identifier : String} {backend : Backend}
    (named : finder.key? identifier = some key) (built : finder.backend? identifier = some backend)
    (leads : (finder.planned request plan identifier backend).Leads log (.done final)) :
    ∃ entry : Entry, entry.Sound finder request ∧
      (entry.key, entry.identifier) = (key, identifier) ∧ entry.log = log ∧
      final = plan.extend request.pattern [entry] := by
  unfold planned at leads
  by_cases reading : finder.readsCache request = true
  · simp only [reading, ↓reduceIte] at leads
    obtain ⟨found, first, second, looked, rest, rfl⟩ := leads.of_bind
    obtain ⟨answer, reading', last, read, ended, rfl⟩ := looked.of_bind
    obtain ⟨rfl, same⟩ := ended.of_done
    cases same
    let entry : Entry := ⟨key, identifier, backend, answer.toOption, reading'⟩
    have sound : entry.Sound finder request :=
      ⟨named, built, fun _ => ⟨answer, .of_leads read, rfl⟩, by simp [reading]⟩
    refine ⟨entry, sound, rfl, ?_, ?_⟩
    · split at rest <;> obtain ⟨rfl, same⟩ := rest.of_done <;> simp [entry]
    · split at rest
      · rename_i items hit
        obtain ⟨rfl, same⟩ := rest.of_done
        cases same
        simp [Plan.extend, entry, hit, Inventory.Collector.add]
      · rename_i missed
        obtain ⟨rfl, same⟩ := rest.of_done
        cases same
        simp [Plan.extend, entry, missed, Entry.query]
  · simp only [reading, Bool.false_eq_true, ↓reduceIte] at leads
    obtain ⟨rfl, same⟩ := leads.of_done
    cases same
    let entry : Entry := ⟨key, identifier, backend, none, []⟩
    refine ⟨entry, ⟨named, built, fun on => absurd on reading, fun _ => ⟨rfl, rfl⟩⟩, rfl, rfl, ?_⟩
    simp [Plan.extend, entry, Entry.query]

/-- A preparation that succeeds makes one sound entry for each leader, in order, and does nothing
else. -/
theorem planFrom_leads {seen : List TargetKey} {identifiers : List String}
    (leads : (finder.planFrom request seen plan identifiers).Leads log (.done (.ok final))) :
    ∃ entries : List Entry, (∀ entry ∈ entries, entry.Sound finder request) ∧
      entries.map (fun entry => (entry.key, entry.identifier)) = finder.leaders seen identifiers ∧
      (∀ identifier ∈ identifiers, (finder.key? identifier).isSome) ∧
      log = entries.flatMap Entry.log ∧ final = plan.extend request.pattern entries := by
  -- Along the recursion of the preparation, which skips identifiers with a target seen before.
  induction identifiers generalizing seen plan log with
  | nil =>
    obtain ⟨rfl, same⟩ := leads.of_done
    cases same
    exact ⟨[], by simp, rfl, by simp, rfl, by simp [Plan.extend]⟩
  | cons identifier rest ih =>
    unfold planFrom at leads
    split at leads
    · cases leads.of_done.2
    · rename_i target aimed
      have named : finder.key? identifier = some (target.descriptor.name, target.part) := by
        simp [key?, aimed, Except.toOption]
      by_cases earlier : (target.descriptor.name, target.part) ∈ seen
      · simp only [earlier, ↓reduceIte] at leads
        obtain ⟨entries, sound, matched, known, logged, planned⟩ := ih leads
        exact ⟨entries, sound, by simpa [leaders, named, earlier] using matched,
          by simpa [named] using known, logged, planned⟩
      · simp only [earlier, ↓reduceIte] at leads
        split at leads
        · cases leads.of_done.2
        · rename_i backend made
          have built : finder.backend? identifier = some backend := by
            simp [backend?, aimed, made, Except.toOption]
          obtain ⟨middle, first, second, one, others, rfl⟩ := leads.of_bind
          obtain ⟨entry, sound, matched, rfl, rfl⟩ := planned_leads named built one
          obtain ⟨entries, allSound, allMatched, known, rfl, rfl⟩ := ih others
          refine ⟨entry :: entries, ?_, ?_, ?_, by simp, ?_⟩
          · simpa using ⟨sound, allSound⟩
          · simp [leaders, named, earlier, matched, allMatched]
          · simpa [named] using known
          · simp [Plan.extend_extend]

private theorem planned_writesNothing (finder : Finder) (request : Request) (plan : Plan)
    (identifier : String) (backend : Backend) :
    (finder.planned request plan identifier backend).WritesNothing := by
  unfold planned
  dsimp only
  split
  · refine .bind (.bind (Cache.get_writesNothing _ _) fun _ => trivial) fun found => ?_
    cases found <;> trivial
  · trivial

theorem planFrom_writesNothing (finder : Finder) (request : Request) (seen : List TargetKey)
    (plan : Plan) (identifiers : List String) :
    (finder.planFrom request seen plan identifiers).WritesNothing := by
  induction identifiers generalizing seen plan with
  | nil => trivial
  | cons identifier rest ih =>
    unfold planFrom
    split
    · trivial
    · rename_i target _
      by_cases earlier : (target.descriptor.name, target.part) ∈ seen
      · simpa only [earlier, ↓reduceIte] using ih seen plan
      · simp only [earlier, ↓reduceIte]
        split
        · trivial
        · exact .bind (planned_writesNothing ..) fun _ => ih _ _

theorem plan_writesNothing (finder : Finder) (request : Request) :
    (finder.plan request).WritesNothing := by
  unfold plan
  split
  · trivial
  · exact planFrom_writesNothing ..

end Finder

/-- Whether entries are what the preparation of a request comes to. -/
structure Prepared (finder : Finder) (request : Request) (entries : List Entry) : Prop where
  sound : ∀ entry ∈ entries, entry.Sound finder request
  matched : entries.map (fun entry => (entry.key, entry.identifier)) =
    finder.leaders [] request.identifiers
  known : ∀ identifier ∈ request.identifiers, (finder.key? identifier).isSome

theorem Finder.plan_leads (leads : (finder.plan request).Leads log (.done (.ok final))) :
    ∃ entries, Prepared finder request entries ∧ log = entries.flatMap Entry.log ∧
      final = Plan.extend {} request.pattern entries := by
  unfold plan at leads
  split at leads
  · cases leads.of_done.2
  · obtain ⟨entries, sound, matched, known, logged, planned⟩ := planFrom_leads leads
    exact ⟨entries, ⟨sound, matched, known⟩, logged, planned⟩

namespace Prepared

variable {entries : List Entry} {entry : Entry}

theorem identifiers (prepared : Prepared finder request entries) :
    entries.map Entry.identifier = (finder.leaders [] request.identifiers).map Prod.snd := by
  simp [← prepared.matched]

theorem distinct (prepared : Prepared finder request entries) :
    (entries.map Entry.identifier).Nodup :=
  prepared.identifiers ▸ Finder.leaders_identifiers_nodup

theorem keys (prepared : Prepared finder request entries) :
    ((entries.map Entry.identifier).map finder.key?).Perm ((finder.targets request).map some) := by
  rw [prepared.identifiers, Finder.map_key?_leaders]
  exact (Finder.leaders_perm_targets finder request).map some

theorem first (prepared : Prepared finder request entries) (member : entry ∈ entries) :
    request.identifiers.find? (fun identifier =>
      finder.key? identifier = finder.key? entry.identifier) = some entry.identifier := by
  rw [(prepared.sound entry member).named]
  exact Finder.find?_of_mem_leaders (prepared.matched ▸ List.mem_map_of_mem member)

theorem mem_identifiers (prepared : Prepared finder request entries) (member : entry ∈ entries) :
    entry.identifier ∈ request.identifiers :=
  List.mem_of_find?_eq_some (prepared.first member)

theorem keys_perm_targets (prepared : Prepared finder request entries) :
    (entries.map Entry.key).Perm (finder.targets request) := by
  have leaders : entries.map Entry.key = (finder.leaders [] request.identifiers).map Prod.fst := by
    simp [← prepared.matched]
  rw [leaders]
  exact Finder.leaders_perm_targets finder request

end Prepared

theorem Plan.extend_pending (pattern : String) (entries : List Entry) :
    (Plan.extend {} pattern entries).pending =
      (entries.filter fun entry => entry.found.isNone).map (Entry.query · pattern) := by
  simp [Plan.extend]

theorem Plan.extend_pending_identifiers (pattern : String) (entries : List Entry) :
    (Plan.extend {} pattern entries).pending.map Query.identifier =
      (entries.filter fun entry => entry.found.isNone).map Entry.identifier := by
  simp [Plan.extend, Entry.query]

namespace Prepared

variable {entries : List Entry} {entry : Entry}

theorem pending_distinct (prepared : Prepared finder request entries) (pattern : String) :
    ((Plan.extend {} pattern entries).pending.map Query.identifier).Nodup := by
  rw [Plan.extend_pending_identifiers]
  exact prepared.distinct.sublist (List.filter_sublist.map _)

theorem hit_notMem_pending (prepared : Prepared finder request entries) (pattern : String)
    (member : entry ∈ entries) {items : Collection} (hit : entry.found = some items) :
    entry.identifier ∉ (Plan.extend {} pattern entries).pending.map Query.identifier := by
  rw [Plan.extend_pending_identifiers]
  intro pending
  obtain ⟨other, present, same⟩ := List.mem_map.mp pending
  obtain ⟨present, missed⟩ := List.mem_filter.mp present
  have identical := List.inj_on_of_nodup_map prepared.distinct present member same
  simp [identical, hit] at missed

end Prepared

/-- One host. -/
def oneHost : Collection := [{ id := "1", backendName := "hosts", name := "web" }]

/-- A backend that always knows one host. -/
def hosts : Backend :=
  { name := "hosts", cacheKey := id, list := fun _ _ => ⟨5, .returns oneHost⟩ }

/-- A backend that knows no host. -/
def idle : Backend :=
  { name := "idle", cacheKey := id, list := fun _ _ => ⟨0, .returns []⟩ }

/-- Searches in which `h` and `hosts` are one target and the section `west` is another one. -/
def hostsFinder : Finder :=
  { registry := ⟨[
      { name := "hosts", shortName := "h", description := "", factory := fun _ _ => .ok hosts },
      { name := "idle", shortName := "idle", description := "", factory := fun _ _ => .ok idle }]⟩
    resolver := ⟨{ backends := [("west", { kind := some "hosts" })] }, fun _ => none⟩
    client := ⟨Network.unreachable, "", 0⟩
    lifetime := .ofSeconds 600 }

/-- A request that names one target twice. -/
def hostsRequest : Request :=
  { backends := [" h", "west", "hosts", ""], pattern := "web" }

/-- The second name of a target is left out, and so is what is blank. -/
example : hostsFinder.leaders [] hostsRequest.identifiers =
    [(("hosts", "hosts"), "h"), (("hosts", "west"), "west")] := by
  decide

end FleetSearch.Search
