import Mathlib.Data.Set.Card
import FleetSearch.Proofs.Cache.Clients

/-! The store as a map with deadlines. Rows that have expired are dropped here and there, by whoever
comes upon them; no answer but the count of a purge shows it. -/

namespace FleetSearch.Cache

open FleetSearch.Json (Decoder)

/-- One use of a store, with the type of its answer. -/
inductive Operation : Type → Type 1 where
  | put {α : Type} (encode : α → Option String) (place : Place) (value : α) (lifetime : Lifetime) :
      Operation Unit
  | get {α : Type} (decode : Decoder α) (place : Place) : Operation α
  | delete (place : Place) : Operation Unit
  | purge : Operation Nat
  | close : Operation Unit

/-- What an operation answers at a moment, and the store after it. -/
def Operation.run {α : Type} (now : Nat) (store : Store) :
    Operation α → Except CacheError α × Store
  | .put encode place value lifetime => (Cache.put encode place value lifetime).run now store
  | .get decode place => (Cache.get decode place).run now store
  | .delete place => (Cache.delete place).run now store
  | .purge => purgeExpired.run now store
  | .close => (.ok (), store.close)

/-- What was last put in a place: its text, when that was, and for how long. -/
structure Deposit where
  text : String
  moment : Nat
  lifetime : Lifetime

/-- Whether the time of a deposit is up. Time is counted in whole milliseconds and ends with the
last moment of the clock; no time at all is no end. -/
def Deposit.isOver (deposit : Deposit) (now : Nat) : Bool :=
  decide (deposit.lifetime.nanoseconds ≠ 0 ∧
    min (deposit.moment + deposit.lifetime.nanoseconds / 10 ^ 6) (2 ^ 63 - 1) ≤ now)

/-- What is in each place, whether its time is up or not. -/
structure TimedMap where
  deposit? : Place → Option Deposit := fun _ => none
  /-- Whether a get or a purge has come upon the deposit since its time was up. -/
  isMet : Place → Bool := fun _ => false
  isOpen : Bool := true

namespace TimedMap

/-- Whether the time of a deposit is up and nobody has come upon it since. -/
def IsDue (map : TimedMap) (now : Nat) (place : Place) : Prop :=
  ∃ deposit, map.deposit? place = some deposit ∧ deposit.isOver now = true ∧
    map.isMet place = false

/-- The text in a place, if its time is not up. -/
def text? (map : TimedMap) (now : Nat) (place : Place) : Option String :=
  ((map.deposit? place).filter fun deposit => !deposit.isOver now).map Deposit.text

/-- What an operation answers at a moment. -/
noncomputable def answer {α : Type} (map : TimedMap) (now : Nat) :
    Operation α → Except CacheError α
  | .put encode _ value _ =>
    if encode value = none then .error .encode
    else if map.isOpen then .ok () else .error .storage
  | .get decode place =>
    if map.isOpen then
      match map.text? now place with
      | some text => spelled decode text
      | none => .error .miss
    else .error .storage
  | .delete _ => if map.isOpen then .ok () else .error .storage
  | .purge =>
    if map.isOpen then .ok (Set.ncard {place | map.IsDue now place}) else .error .storage
  | .close => .ok ()

/-- The map after somebody has looked at some places. -/
def met (map : TimedMap) (now : Nat) (looked : Place → Bool) : TimedMap :=
  { map with
    isMet := fun place =>
      map.isMet place || (looked place && (map.deposit? place).any (·.isOver now)) }

/-- The map after an operation at a moment. Only a put and a delete change what is in it, and
nothing does once it is closed. -/
def after {α : Type} (map : TimedMap) (now : Nat) (operation : Operation α) : TimedMap :=
  if map.isOpen then
    match operation with
    | .put encode place value lifetime =>
      match encode value with
      | some text =>
        { map with
          deposit? := Function.update map.deposit? place (some ⟨text, now, lifetime⟩)
          isMet := Function.update map.isMet place false }
      | none => map
    | .get _ place => map.met now (· == place)
    | .delete place => { map with deposit? := Function.update map.deposit? place none }
    | .purge => map.met now fun _ => true
    | .close => { map with isOpen := false }
  else map

end TimedMap

namespace Store

/-- Whether no place has two rows. -/
def Distinct (store : Store) : Prop :=
  (store.rows.map Prod.fst).Nodup

theorem row?_of_mem_rows {store : Store} {place : Place} {row : Row} (distinct : store.Distinct)
    (member : (place, row) ∈ store.rows) : store.row? place = some row := by
  obtain ⟨before, after, split⟩ := List.append_of_mem member
  refine List.lookup_eq_some_iff.mpr ⟨before, after, split, ?_⟩
  intro entry early
  unfold Distinct at distinct
  rw [split, List.map_append, List.map_cons] at distinct
  have apart := (List.nodup_middle.mp distinct).notMem
  rw [bne_iff_ne]
  rintro rfl
  exact apart (List.mem_append_left _ (List.mem_map.mpr ⟨entry, early, rfl⟩))

theorem row?_eq_some_iff {store : Store} {place : Place} {row : Row} (distinct : store.Distinct) :
    store.row? place = some row ↔ (place, row) ∈ store.rows :=
  ⟨mem_rows_of_row?, row?_of_mem_rows distinct⟩

theorem Distinct.filter {store : Store} (distinct : store.Distinct) (kept : Place × Row → Bool) :
    Distinct { store with rows := store.rows.filter kept } :=
  List.Nodup.sublist (List.filter_sublist.map _) distinct

theorem Distinct.insert {store : Store} (distinct : store.Distinct) (place : Place) (row : Row) :
    (store.insert place row).Distinct := by
  refine List.nodup_cons.mpr ⟨?_, distinct.filter _⟩
  intro again
  obtain ⟨entry, member, same⟩ := List.mem_map.mp again
  simpa [same] using (List.mem_filter.mp member).2

theorem row?_eraseExpired {store : Store} (distinct : store.Distinct) (moment : Nat)
    (place : Place) :
    (store.eraseExpired moment).row? place =
      (store.row? place).filter fun row => !row.isExpired moment := by
  ext row
  have rest : (store.eraseExpired moment).Distinct := distinct.filter _
  rw [row?_eq_some_iff rest, Option.filter_eq_some_iff, row?_eq_some_iff distinct]
  exact List.mem_filter

/-- A purge drops one row for every place with an expired one. -/
theorem size_sub_eraseExpired {store : Store} (distinct : store.Distinct) (moment : Nat) :
    store.size - (store.eraseExpired moment).size =
      Set.ncard {place | ∃ row, store.row? place = some row ∧ row.isExpired moment = true} := by
  let due := store.rows.filter fun entry => entry.2.isExpired moment
  have total : store.size = due.length + (store.eraseExpired moment).size :=
    List.length_eq_length_filter_add fun entry : Place × Row => entry.2.isExpired moment
  have places : {place | ∃ row, store.row? place = some row ∧ row.isExpired moment = true} =
      ((due.map Prod.fst).toFinset : Set Place) := by
    ext place
    simp [due, row?_eq_some_iff distinct]
  have apart : (due.map Prod.fst).Nodup := distinct.filter _
  rw [places, Set.ncard_coe_finset, List.toFinset_card_of_nodup apart, List.length_map]
  omega

end Store

namespace Deposit

/-- The row of a deposit. -/
def row (deposit : Deposit) : Row :=
  ⟨deposit.text, deposit.lifetime.deadline? deposit.moment⟩

@[simp] theorem row_text (deposit : Deposit) : deposit.row.text = deposit.text := rfl

theorem isExpired_row (deposit : Deposit) (now : Nat) :
    deposit.row.isExpired now = deposit.isOver now := by
  obtain ⟨text, moment, lifetime⟩ := deposit
  unfold row isOver Row.isExpired Lifetime.deadline? Lifetime.millis lastMoment
  by_cases none : lifetime.nanoseconds = 0 <;> simp [none]

theorem isOver_mono {deposit : Deposit} {now later : Nat} (wait : now ≤ later)
    (past : deposit.isOver now = true) : deposit.isOver later = true := by
  rw [← isExpired_row] at past ⊢
  exact Row.isExpired_mono wait past

end Deposit

/-- A store holds what is in the map, except for deposits that somebody has come upon after their
time. -/
structure Refines (store : Store) (map : TimedMap) (now : Nat) : Prop where
  opened : store.isOpen = map.isOpen
  distinct : store.Distinct
  rows : ∀ place, store.row? place =
    if map.isMet place then none else (map.deposit? place).map Deposit.row
  past : ∀ place deposit, map.isMet place = true → map.deposit? place = some deposit →
    deposit.isOver now = true

namespace Refines

variable {store : Store} {map : TimedMap} {now later : Nat}

theorem wait (refines : Refines store map now) (wait : now ≤ later) : Refines store map later :=
  ⟨refines.opened, refines.distinct, refines.rows,
    fun place deposit met found => Deposit.isOver_mono wait (refines.past place deposit met found)⟩

/-- A row that has not expired is a deposit whose time is not up. -/
theorem text? (refines : Refines store map now) (place : Place) :
    ((store.row? place).filter fun row => !row.isExpired now).map Row.text =
      map.text? now place := by
  unfold TimedMap.text?
  rw [refines.rows]
  cases found : map.deposit? place with
  | none => simp
  | some deposit =>
    by_cases met : map.isMet place = true
    · simp [met, refines.past place deposit met found]
    · by_cases past : deposit.isOver now = true <;>
        simp [met, Option.filter, Deposit.isExpired_row, past]

theorem isDue_iff (refines : Refines store map now) (place : Place) :
    map.IsDue now place ↔ ∃ row, store.row? place = some row ∧ row.isExpired now = true := by
  unfold TimedMap.IsDue
  rw [refines.rows]
  by_cases met : map.isMet place = true
  · simp [met]
  · simp [met, Deposit.isExpired_row]

/-- Somebody comes upon expired rows, and they are dropped. -/
theorem met {next : Store} (refines : Refines store map now) (looked : Place → Bool)
    (opened : next.isOpen = store.isOpen) (distinct : next.Distinct)
    (dropped : ∀ place, next.row? place =
      if looked place then (store.row? place).filter fun row => !row.isExpired now
      else store.row? place) :
    Refines next (map.met now looked) now := by
  refine ⟨opened.trans refines.opened, distinct, fun place => ?_, fun place deposit met found => ?_⟩
  · rw [dropped, refines.rows, TimedMap.met]
    cases found : map.deposit? place with
    | none => simp
    | some deposit =>
      by_cases seen : looked place = true <;> by_cases before : map.isMet place = true <;>
        by_cases past : deposit.isOver now = true <;>
        simp [seen, before, past, found, Option.filter, Deposit.isExpired_row]
  · have found : map.deposit? place = some deposit := found
    rcases Bool.or_eq_true_iff.mp met with before | seen
    · exact refines.past place deposit before found
    · simpa [found] using (Bool.and_eq_true_iff.mp seen).2

/-- A deposit is made or taken away. -/
theorem update {next : Store} (refines : Refines store map now) (place : Place)
    (deposit? : Option Deposit) (isMet : Place → Bool) (opened : next.isOpen = store.isOpen)
    (distinct : next.Distinct) (here : next.row? place = deposit?.map Deposit.row)
    (elsewhere : ∀ other, other ≠ place → next.row? other = store.row? other)
    (unmet : deposit?.isSome = true → isMet place = false)
    (same : ∀ other, other ≠ place → isMet other = map.isMet other) :
    Refines next
      { map with deposit? := Function.update map.deposit? place deposit?, isMet } now := by
  refine ⟨opened.trans refines.opened, distinct, fun other => ?_, fun other deposit met found => ?_⟩
  · by_cases eq : other = place
    · subst eq
      cases deposit? with
      | none => simp [here]
      | some deposit => simp [here, unmet]
    · simp [eq, elsewhere other eq, refines.rows, same other eq]
  · by_cases eq : other = place
    · subst eq
      cases deposit? with
      | none => simp at found
      | some deposit => simp [unmet] at met
    · have found : map.deposit? other = some deposit := by simpa [eq] using found
      exact refines.past other deposit (same other eq ▸ met) found

end Refines

theorem run_get_store {α : Type} (decode : Decoder α) (place : Place) (now : Nat) (store : Store) :
    ((get decode place).run now store).2 =
      if store.isOpen && (store.row? place).any (·.isExpired now) then store.erase place
      else store := by
  simp only [get, textInForce, Access.bind, Access.run, Access.reply]
  by_cases opened : store.isOpen = true
  · cases found : store.row? place with
    | none => simp [opened, Access.bind, Access.run]
    | some row =>
      by_cases due : row.isExpired now = true <;>
        simp [opened, due, Access.bind, Access.run, Access.changed]
  · simp [opened, Access.bind, Access.run]

/-- Whether an operation gets as far as the store: a put has to have a text first, and a close asks
it nothing. -/
def Operation.asksStore {α : Type} : Operation α → Bool
  | .put encode _ value _ => (encode value).isSome
  | .close => false
  | _ => true

/-- On a closed store nothing changes, and what asks the store is told so. -/
theorem Operation.run_of_closed {α : Type} (now : Nat) {store : Store}
    (closed : store.isOpen = false) (operation : Operation α) :
    (operation.run now store).2 = store ∧
      (operation.asksStore = true → (operation.run now store).1 = .error .storage) := by
  cases operation with
  | put encode place value lifetime =>
    cases encoded : encode value <;>
      simp [Operation.run, Cache.put, encoded, Access.run, Access.reply, Access.changed, closed,
        Operation.asksStore]
  | get decode place => simp [Operation.run, run_get, run_get_store, Access.reply, closed]
  | delete place =>
    simp [Operation.run, Cache.delete, Access.run, Access.reply, Access.changed, closed]
  | purge => simp [Operation.run, purgeExpired, Access.run, Access.reply, Access.changed, closed]
  | close => exact ⟨by simp [Operation.run, Store.close, ← closed], by simp [Operation.asksStore]⟩

namespace Refines

variable {store : Store} {map : TimedMap} {now : Nat} {α : Type}

/-- A closed store and a closed map answer alike and stay as they are. -/
private theorem closed (refines : Refines store map now) (shut : map.isOpen = false)
    (operation : Operation α) :
    (operation.run now store).1 = map.answer now operation ∧
      Refines (operation.run now store).2 (map.after now operation) now := by
  have stored : store.isOpen = false := refines.opened.trans shut
  obtain ⟨same, told⟩ := operation.run_of_closed now stored
  constructor
  · cases operation with
    | put encode place value lifetime =>
      cases encoded : encode value <;>
        simp [Operation.run, Cache.put, encoded, Access.run, Access.reply, stored,
          TimedMap.answer, shut]
    | close => rfl
    | _ => simp [told rfl, TimedMap.answer, shut]
  · rw [same]
    simpa [TimedMap.after, shut] using refines

private theorem put (refines : Refines store map now) (opened : map.isOpen = true)
    (encode : α → Option String) (place : Place) (value : α) (lifetime : Lifetime) :
    ((Operation.put encode place value lifetime).run now store).1 =
        map.answer now (.put encode place value lifetime) ∧
      Refines ((Operation.put encode place value lifetime).run now store).2
        (map.after now (.put encode place value lifetime)) now := by
  have stored : store.isOpen = true := refines.opened.trans opened
  cases encoded : encode value with
  | none =>
    simpa [Operation.run, Cache.put, encoded, Access.run, TimedMap.answer, TimedMap.after, opened]
      using refines
  | some text =>
    refine ⟨by simp [Operation.run, Cache.put, encoded, Access.run, Access.reply, TimedMap.answer,
      opened, stored], ?_⟩
    have deposited : Refines (store.insert place ⟨text, lifetime.deadline? now⟩)
        { map with
          deposit? := Function.update map.deposit? place (some ⟨text, now, lifetime⟩)
          isMet := Function.update map.isMet place false } now := by
      refine refines.update place _ _ rfl (refines.distinct.insert place _)
        (Store.row?_insert_self ..) (fun other different => ?_) (by simp) (by simp_all)
      exact Store.row?_insert_of_ne different store _
    simpa [Operation.run, Cache.put, encoded, Access.run, Access.changed, stored, TimedMap.after,
      opened] using deposited

private theorem get (refines : Refines store map now) (opened : map.isOpen = true)
    (decode : Decoder α) (place : Place) :
    ((Operation.get decode place).run now store).1 = map.answer now (.get decode place) ∧
      Refines ((Operation.get decode place).run now store).2 (map.after now (.get decode place))
        now := by
  have stored : store.isOpen = true := refines.opened.trans opened
  constructor
  · simp only [Operation.run, run_get, Access.reply, stored, if_pos, TimedMap.answer, opened,
      ← refines.text? place]
    cases found : store.row? place with
    | none => simp
    | some row => by_cases due : row.isExpired now = true <;> simp [due, Option.filter]
  · simp only [Operation.run, run_get_store, stored, Bool.true_and, TimedMap.after, opened, if_pos]
    cases found : store.row? place with
    | none =>
      refine refines.met _ rfl refines.distinct fun other => ?_
      by_cases same : other = place <;> simp [same, found]
    | some row =>
      by_cases due : row.isExpired now = true
      · simp only [Option.any_some, due, if_pos]
        refine refines.met _ rfl (refines.distinct.filter _) fun other => ?_
        by_cases same : other = place
        · subst same
          simp [Store.row?_erase_self, found, due, Option.filter]
        · simp [same, Store.row?_erase_of_ne same]
      · simp only [Option.any_some, due, Bool.false_eq_true, if_neg, not_false_eq_true]
        refine refines.met _ rfl refines.distinct fun other => ?_
        by_cases same : other = place <;> simp [same, found, due, Option.filter]

private theorem delete (refines : Refines store map now) (opened : map.isOpen = true)
    (place : Place) :
    ((Operation.delete place).run now store).1 = map.answer now (.delete place) ∧
      Refines ((Operation.delete place).run now store).2 (map.after now (.delete place)) now := by
  have stored : store.isOpen = true := refines.opened.trans opened
  refine ⟨by simp [Operation.run, Cache.delete, Access.run, Access.reply, TimedMap.answer, opened,
    stored], ?_⟩
  have taken : Refines (store.erase place)
      { map with deposit? := Function.update map.deposit? place none } now :=
    refines.update place none map.isMet rfl (refines.distinct.filter _) (Store.row?_erase_self ..)
      (fun other different => Store.row?_erase_of_ne different store) (by simp) (by simp)
  simpa [Operation.run, Cache.delete, Access.run, Access.changed, stored, TimedMap.after, opened]
    using taken

private theorem purge (refines : Refines store map now) (opened : map.isOpen = true) :
    (Operation.purge.run now store).1 = map.answer now .purge ∧
      Refines (Operation.purge.run now store).2 (map.after now .purge) now := by
  have stored : store.isOpen = true := refines.opened.trans opened
  constructor
  · have count := Store.size_sub_eraseExpired refines.distinct now
    simp only [← refines.isDue_iff] at count
    simp [Operation.run, purgeExpired, Access.run, Access.reply, TimedMap.answer, opened, stored,
      count]
  · have dropped : Refines (store.eraseExpired now) (map.met now fun _ => true) now :=
      refines.met _ rfl (refines.distinct.filter _) fun other => by
        simpa using Store.row?_eraseExpired refines.distinct now other
    simpa [Operation.run, purgeExpired, Access.run, Access.changed, stored, TimedMap.after, opened]
      using dropped

/-- Whatever is done, the store answers as the map does and goes on refining it. -/
theorem step (refines : Refines store map now) (operation : Operation α) :
    (operation.run now store).1 = map.answer now operation ∧
      Refines (operation.run now store).2 (map.after now operation) now := by
  by_cases opened : map.isOpen = true
  · cases operation with
    | put encode place value lifetime => exact refines.put opened encode place value lifetime
    | get decode place => exact refines.get opened decode place
    | delete place => exact refines.delete opened place
    | purge => exact refines.purge opened
    | close =>
      refine ⟨rfl, ?_⟩
      simpa [Operation.run, TimedMap.after, opened] using
        (⟨rfl, refines.distinct, refines.rows, refines.past⟩ :
          Refines store.close { map with isOpen := false } now)
  · exact refines.closed (Bool.eq_false_iff.mpr opened) operation

end Refines

/-- An operation at a moment. -/
structure Use : Type 1 where
  now : Nat
  {α : Type}
  operation : Operation α

/-- The store after a use. -/
def Store.use (store : Store) (use : Use) : Store :=
  (use.operation.run use.now store).2

/-- What the uses of a history answer, one after another. -/
def Store.answers (store : Store) : List Use → List (Σ α : Type, Except CacheError α)
  | [] => []
  | use :: rest => ⟨use.α, (use.operation.run use.now store).1⟩ :: (store.use use).answers rest

/-- What the map answers to a history. -/
noncomputable def TimedMap.answers (map : TimedMap) :
    List Use → List (Σ α : Type, Except CacheError α)
  | [] => []
  | use :: rest =>
    ⟨use.α, map.answer use.now use.operation⟩ :: (map.after use.now use.operation).answers rest

/-- The uses of a history come in order of time. -/
def InOrder (history : List Use) : Prop :=
  history.Pairwise fun earlier later => earlier.now ≤ later.now

namespace Refines

variable {store : Store} {map : TimedMap} {now : Nat}

theorem empty (now : Nat) : Refines {} {} now :=
  ⟨rfl, List.nodup_nil, fun _ => rfl, fun _ _ met => by cases met⟩

/-- Along a whole history the store answers as the map does. -/
theorem answers {history : List Use} (refines : Refines store map now) (ordered : InOrder history)
    (begun : ∀ use ∈ history, now ≤ use.now) : store.answers history = map.answers history := by
  induction history generalizing store map now with
  | nil => rfl
  | cons use rest ih =>
    obtain ⟨later, ordered⟩ := List.pairwise_cons.mp ordered
    obtain ⟨same, next⟩ := (refines.wait (begun use (by simp))).step use.operation
    rw [Store.answers, TimedMap.answers, same]
    exact congrArg _ (ih next ordered later)

/-- A history leads to a store that refines the map to which it leads. -/
theorem useAll {history : List Use} {last : Nat} (refines : Refines store map now)
    (ordered : InOrder history) (begun : ∀ use ∈ history, now ≤ use.now)
    (ended : ∀ use ∈ history, use.now ≤ last) (wait : now ≤ last) :
    Refines (history.foldl Store.use store)
      (history.foldl (fun map use => map.after use.now use.operation) map) last := by
  induction history generalizing store map now with
  | nil => exact refines.wait wait
  | cons use rest ih =>
    obtain ⟨later, ordered⟩ := List.pairwise_cons.mp ordered
    have next := ((refines.wait (begun use (by simp))).step use.operation).2
    exact ih next ordered later (fun other member => ended other (by simp [member]))
      (ended use (by simp))

end Refines

namespace TimedMap

/-- Whether two maps have the same deposits, whoever has come upon them. -/
def Alike (map other : TimedMap) : Prop :=
  map.deposit? = other.deposit? ∧ map.isOpen = other.isOpen

theorem Alike.after {map other : TimedMap} {α : Type} (alike : map.Alike other) (now : Nat)
    (operation : Operation α) : (map.after now operation).Alike (other.after now operation) := by
  obtain ⟨deposits, opened⟩ := alike
  unfold TimedMap.after
  rw [opened]
  by_cases shut : other.isOpen = true
  · simp only [shut, if_pos]
    cases operation with
    | put encode place value lifetime =>
      cases encoded : encode value with
      | none => simpa only [encoded] using ⟨deposits, opened⟩
      | some text => simp [Alike, encoded, deposits]
    | get decode place => exact ⟨deposits, opened⟩
    | delete place => simp [Alike, deposits]
    | purge => exact ⟨deposits, opened⟩
    | close => exact ⟨deposits, rfl⟩
  · simpa only [shut] using ⟨deposits, opened⟩

theorem alike_after_purge (map : TimedMap) (now : Nat) : (map.after now .purge).Alike map := by
  unfold TimedMap.after
  split <;> exact ⟨rfl, rfl⟩

theorem Alike.useAll {map other : TimedMap} (alike : map.Alike other) (history : List Use) :
    Alike (history.foldl (fun map use => map.after use.now use.operation) map)
      (history.foldl (fun map use => map.after use.now use.operation) other) := by
  induction history generalizing map other with
  | nil => exact alike
  | cons use rest ih => exact ih (alike.after use.now use.operation)

/-- A get cannot tell maps with the same deposits apart. -/
theorem Alike.answer_get {map other : TimedMap} {α : Type} (alike : map.Alike other) (now : Nat)
    (decode : Decoder α) (place : Place) :
    map.answer now (.get decode place) = other.answer now (.get decode place) := by
  simp [answer, text?, alike.1, alike.2]

end TimedMap

/-- What fails for another reason than a miss changes nothing. -/
theorem Operation.run_of_error {α : Type} {now : Nat} {store : Store} {operation : Operation α}
    {error : CacheError} (failed : (operation.run now store).1 = .error error)
    (present : error ≠ .miss) : (operation.run now store).2 = store := by
  cases operation with
  | put encode place value lifetime =>
    cases encoded : encode value <;> cases opened : store.isOpen <;>
      simp_all [Operation.run, Cache.put, Access.run, Access.reply, Access.changed]
  | get decode place =>
    simp only [Operation.run, run_get] at failed
    simp only [Operation.run, run_get_store]
    cases opened : store.isOpen with
    | false => rfl
    | true =>
      cases found : store.row? place with
      | none => simp
      | some row =>
        cases due : row.isExpired now with
        | false => simp [due]
        | true => simp [Access.reply, opened, found, due, present.symm] at failed
  | delete place =>
    cases opened : store.isOpen <;>
      simp_all [Operation.run, Cache.delete, Access.run, Access.reply, Access.changed]
  | purge =>
    cases opened : store.isOpen <;>
      simp_all [Operation.run, purgeExpired, Access.run, Access.reply, Access.changed]
  | close => cases failed

/-- What a get answers after a history. -/
def readAfter {α : Type} (history : List Use) (now : Nat) (decode : Decoder α) (place : Place) :
    Except CacheError α :=
  ((Operation.get decode place).run now (history.foldl Store.use {})).1

theorem Store.isOpen_of_close {history : List Use} {moment : Nat}
    (closed : (⟨moment, .close⟩ : Use) ∈ history) (store : Store) :
    (history.foldl Store.use store).isOpen = false := by
  obtain ⟨before, after, rfl⟩ := List.append_of_mem closed
  rw [List.foldl_append, List.foldl_cons]
  have shut : ((before.foldl Store.use store).use ⟨moment, .close⟩).isOpen = false := rfl
  generalize (before.foldl Store.use store).use ⟨moment, .close⟩ = store at shut
  induction after with
  | nil => exact shut
  | cons use rest ih =>
    rw [List.foldl_cons, Store.use, (use.operation.run_of_closed use.now shut).1]
    exact ih (by simp)

/-- A purge changes what no later get answers. -/
theorem readAfter_purge {α : Type} {before between : List Use} {moment now : Nat}
    (ordered : InOrder (before ++ ⟨moment, .purge⟩ :: between))
    (ended : ∀ use ∈ before ++ ⟨moment, .purge⟩ :: between, use.now ≤ now) (decode : Decoder α)
    (place : Place) :
    readAfter (before ++ ⟨moment, .purge⟩ :: between) now decode place =
      readAfter (before ++ between) now decode place := by
  have fewer : (before ++ between).Sublist (before ++ ⟨moment, .purge⟩ :: between) :=
    (List.sublist_cons_self _ _).append_left before
  have purged := (Refines.empty 0).useAll ordered (by simp) ended (Nat.zero_le now)
  have left := (Refines.empty 0).useAll (ordered.sublist fewer) (by simp)
    (fun use member => ended use (fewer.subset member)) (Nat.zero_le now)
  rw [readAfter, readAfter, (purged.step _).1, (left.step _).1]
  refine TimedMap.Alike.answer_get ?_ now decode place
  simp only [List.foldl_append, List.foldl_cons]
  exact (TimedMap.alike_after_purge _ moment).useAll between

/-- Along every history the store answers as the map in which nothing is removed for being over.
What fails otherwise than by a miss changes nothing, nothing is done after a close, and no get tells
whether there was a purge before it. -/
theorem timed_map_refined {history : List Use} (ordered : InOrder history) :
    Store.answers {} history = TimedMap.answers {} history ∧
    (∀ before use after, history = before ++ use :: after →
      (∀ error, (use.operation.run use.now (before.foldl Store.use {})).1 = .error error →
        error ≠ .miss → (before.foldl Store.use {}).use use = before.foldl Store.use {}) ∧
      ∀ moment, (⟨moment, .close⟩ : Use) ∈ before →
        (before.foldl Store.use {}).use use = before.foldl Store.use {} ∧
        (use.operation.asksStore = true →
          (use.operation.run use.now (before.foldl Store.use {})).1 = .error .storage)) ∧
    ∀ (before between after : List Use) (moment now : Nat) (α : Type) (decode : Decoder α)
      (place : Place),
      history = before ++ ⟨moment, .purge⟩ :: between ++ ⟨now, .get decode place⟩ :: after →
        readAfter (before ++ ⟨moment, .purge⟩ :: between) now decode place =
          readAfter (before ++ between) now decode place := by
  refine ⟨(Refines.empty 0).answers ordered (by simp), ?_, ?_⟩
  · intro before use after _
    refine ⟨fun error failed present => Operation.run_of_error failed present, ?_⟩
    intro moment closed
    exact use.operation.run_of_closed use.now (Store.isOpen_of_close closed {})
  · intro before between after moment now α decode place split
    rw [split] at ordered
    obtain ⟨earlier, -, wait⟩ := List.pairwise_append.mp ordered
    exact readAfter_purge earlier (fun use member => wait use member _ List.mem_cons_self)
      decode place

/-- A text is put for ten milliseconds, read in the last of them, purged, and looked for in vain;
then the store is closed. -/
def flagHistory : List Use :=
  [⟨0, .put Clients.flagText Clients.contested true (.ofMillis 10)⟩,
    ⟨9, .get Json.Decoder.bool Clients.contested⟩, ⟨10, .purge⟩,
    ⟨10, .get Json.Decoder.bool Clients.contested⟩, ⟨11, .close⟩, ⟨12, .purge⟩]

theorem timed_map_refined_flag : InOrder flagHistory ∧
    TimedMap.answers {} flagHistory =
      [⟨Unit, .ok ()⟩, ⟨Bool, .ok true⟩, ⟨Nat, .ok 1⟩, ⟨Bool, .error .miss⟩, ⟨Unit, .ok ()⟩,
        ⟨Nat, .error .storage⟩] := by
  have ordered : InOrder flagHistory := by simp [flagHistory, InOrder]
  exact ⟨ordered, (timed_map_refined ordered).1.symm.trans rfl⟩

/-- A put of a value without a text is refused for that, even after a close. -/
theorem put_after_close : ¬ ∀ (α : Type) (encode : α → Option String) (place : Place) (value : α)
    (lifetime : Lifetime) (before : List Use) (moment now : Nat),
    (⟨moment, .close⟩ : Use) ∈ before →
      ((Operation.put encode place value lifetime).run now (before.foldl Store.use {})).1 =
        .error .storage := by
  intro refused
  have storage := refused Unit (fun _ => none) Clients.contested () ⟨0⟩ [⟨0, .close⟩] 0 0 (by simp)
  cases storage

end FleetSearch.Cache
