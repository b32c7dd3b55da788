import FleetSearch.Proofs.Cache.TimedMap

/-! What is in force in a store: the rows whose time is not up. Reads answer from it alone, and
whoever drops a row only where an expired one was just found leaves it as it is. -/

namespace FleetSearch.Cache

/-- The row in force in a place at a moment. -/
def Store.inForce? (store : Store) (moment : Nat) (place : Place) : Option Row :=
  (store.row? place).filter fun row => !row.isExpired moment

theorem Store.inForce?_eq_some_iff {store : Store} {moment : Nat} {place : Place} {row : Row} :
    store.inForce? moment place = some row ↔
      store.row? place = some row ∧ row.isExpired moment = false := by
  simp [inForce?, Option.filter_eq_some_iff]

/-- What a read at one moment finds, by what is in force then. -/
theorem run_get_eq_inForce {α : Type} (decode : Json.Decoder α) (place : Place) (now : Nat)
    (store : Store) :
    ((get decode place).run now store).1 =
      if store.isOpen then
        match store.inForce? now place with
        | some row => spelled decode row.text
        | none => .error .miss
      else .error .storage := by
  rw [run_get, Access.reply, Store.inForce?]
  cases store.isOpen with
  | false => rfl
  | true =>
    cases store.row? place with
    | none => rfl
    | some row => by_cases due : row.isExpired now = true <;> simp [due, Option.filter]

theorem run_get_of_row {α : Type} {decode : Json.Decoder α} {place : Place} {now : Nat}
    {store : Store} {row : Row} (opened : store.isOpen = true)
    (found : store.row? place = some row) (valid : row.isExpired now = false) :
    ((get decode place).run now store).1 = spelled decode row.text := by
  rw [run_get_eq_inForce, opened, Store.inForce?_eq_some_iff.mpr ⟨found, valid⟩]
  rfl

theorem run_get_of_inForce {α : Type} {decode : Json.Decoder α} {place : Place} {now : Nat}
    {first second : Store} (opened : first.isOpen = second.isOpen)
    (same : first.inForce? now place = second.inForce? now place) :
    ((get decode place).run now first).1 = ((get decode place).run now second).1 := by
  rw [run_get_eq_inForce, run_get_eq_inForce, opened, same]

theorem Row.inForce_of_le {row : Row} {now later : Nat} (wait : now ≤ later)
    (valid : row.isExpired later = false) : row.isExpired now = false := by
  by_contra due
  rw [Bool.not_eq_false] at due
  simp [Row.isExpired_mono wait due] at valid

/-- Whether a log only looks, and drops rows only where it has just found expired ones. -/
inductive Exchange.Careful : List Exchange → Prop where
  | nil : Careful []
  | clock {log : List Exchange} (now : Nat) (rest : Careful log) : Careful (.clock now :: log)
  | select {log : List Exchange} (place : Place) (reply : Except CacheError (Option Row))
      (rest : Careful log) : Careful (.select place reply :: log)
  | drop {log : List Exchange} {place : Place} {row : Row} {now : Nat}
      (due : row.isExpired now = true) (reply : Except CacheError Unit) (rest : Careful log) :
      Careful (.select place (.ok (some row)) :: .clock now :: .erase place reply :: log)

namespace Exchange.Careful

theorem append {first second : List Exchange} (careful : Careful first) (rest : Careful second) :
    Careful (first ++ second) := by
  induction careful with
  | nil => exact rest
  | clock now _ ih => exact .clock now ih
  | select place reply _ ih => exact .select place reply ih
  | drop due reply _ ih => exact .drop due reply ih

/-- The row that is dropped has expired, so nobody misses it. -/
private theorem inForce?_erase {now moment : Nat} {store : Store} {place : Place} {row : Row}
    (found : store.row? place = some row) (due : row.isExpired now = true) (wait : now ≤ moment)
    (other : Place) :
    (store.erase place).inForce? moment other = store.inForce? moment other := by
  unfold Store.inForce?
  by_cases same : other = place
  · subst same
    have past : row.isExpired moment = true := Row.isExpired_mono wait due
    simp [Store.row?_erase_self, found, Option.filter, past]
  · rw [Store.row?_erase_of_ne same]

/-- With nobody else at the store, a careful log changes nothing of what is in force after it. -/
theorem inForce?_after {log : List Exchange} {now last moment : Nat} {store : Store}
    (careful : Careful log) (performed : Performed now store log last) (wait : last ≤ moment)
    (place : Place) : (after store log).inForce? moment place = store.inForce? moment place := by
  induction careful generalizing now store with
  | nil => rfl
  | clock clock rest ih =>
    obtain ⟨_, _, _, performed⟩ := performed
    exact ih performed
  | select other reply rest ih =>
    obtain ⟨_, _, _, performed⟩ := performed
    exact ih performed
  | @drop log other row clock due reply rest ih =>
    obtain ⟨_, _, looked, _, _, rfl, _, later, _, performed⟩ := performed
    have replied : .ok (some row) = Access.reply store (store.row? other) := looked
    have opened : store.isOpen = true ∧ store.row? other = some row := by
      unfold Access.reply at replied
      split at replied
      · rename_i opened
        exact ⟨opened, (Except.ok.inj replied).symm⟩
      · cases replied
    have dropped : Exchange.apply store (.erase other reply) = store.erase other := by
      simp [Exchange.apply, Access.changed, opened.1]
    have before := Nat.le_trans later (Nat.le_trans performed.le wait)
    exact (ih performed).trans
      ((congrArg (fun store => Store.inForce? store moment place) dropped).trans
        (inForce?_erase opened.2 due before place))

end Exchange.Careful

namespace Access

variable {α β : Type}

/-- A log of an access followed by another one is a log of the first, or goes on in the second. -/
theorem Leads.bind_cases {access : Access α} {next : α → Access β} {log : List Exchange}
    {last : Access β} (leads : Leads (access.bind next) log last) :
    (∃ rest, Leads access log rest) ∨
      ∃ middle first second, Leads access first (.done middle) ∧
        Leads (next middle) second last ∧ log = first ++ second := by
  induction log generalizing access with
  | nil => exact .inl ⟨access, .refl⟩
  | cons exchange rest ih =>
    cases access with
    | done middle => exact .inr ⟨middle, [], _, .refl, leads, rfl⟩
    | _ =>
      obtain _ | ⟨hears, tail⟩ := leads
      cases hears
      rcases ih tail with ⟨rest, before⟩ | ⟨middle, first, second, before, after, split⟩
      · exact .inl ⟨rest, .step (by constructor) before⟩
      · exact .inr ⟨middle, _ :: first, second, .step (by constructor) before, after,
          by simp [split]⟩

/-- Whether an access is careful however far it has come. -/
def Careful (access : Access α) : Prop :=
  ∀ log rest, access.Leads log rest → Exchange.Careful log

theorem Careful.done (result : α) : Careful (.done result) := by
  intro log rest leads
  rw [leads.of_done.1]
  exact .nil

theorem Careful.bind {access : Access α} {next : α → Access β} (first : access.Careful)
    (second : ∀ result, (next result).Careful) : (access.bind next).Careful := by
  intro log rest leads
  rcases leads.bind_cases with ⟨rest, before⟩ | ⟨middle, early, late, before, after, rfl⟩
  · exact first log rest before
  · exact (first early _ before).append (second middle late rest after)

theorem leads_run (now : Nat) (store : Store) (access : Access α) :
    ∃ log, access.Leads log (.done (access.run now store).1) ∧
      Exchange.Performed now store log now ∧
      (access.run now store).2 = Exchange.after store log := by
  induction access generalizing store with
  | done result => exact ⟨[], .refl, Nat.le_refl now, rfl⟩
  | clock next ih =>
    obtain ⟨log, leads, performed, stored⟩ := ih now store
    exact ⟨.clock now :: log, .step .clock leads, ⟨now, Nat.le_refl now, rfl, performed⟩, stored⟩
  | select place next ih =>
    obtain ⟨log, leads, performed, stored⟩ := ih (reply store (store.row? place)) store
    exact ⟨_ :: log, .step .select leads, ⟨now, Nat.le_refl now, rfl, performed⟩, stored⟩
  | insert place row next ih =>
    obtain ⟨log, leads, performed, stored⟩ :=
      ih (reply store ()) (changed store (store.insert place row))
    exact ⟨_ :: log, .step .insert leads, ⟨now, Nat.le_refl now, rfl, performed⟩, stored⟩
  | erase place next ih =>
    obtain ⟨log, leads, performed, stored⟩ :=
      ih (reply store ()) (changed store (store.erase place))
    exact ⟨_ :: log, .step .erase leads, ⟨now, Nat.le_refl now, rfl, performed⟩, stored⟩
  | eraseExpired moment next ih =>
    obtain ⟨log, leads, performed, stored⟩ :=
      ih (reply store (store.size - (store.eraseExpired moment).size))
        (changed store (store.eraseExpired moment))
    exact ⟨_ :: log, .step .eraseExpired leads, ⟨now, Nat.le_refl now, rfl, performed⟩, stored⟩

end Access

/-- A read drops nothing but the expired row that it finds. -/
theorem get_careful {α : Type} (decode : Json.Decoder α) (place : Place) :
    (get decode place).Careful := by
  intro log rest leads
  cases Reading.of_leads leads with
  | unasked => exact .nil
  | untimed row => exact .select _ _ .nil
  | undropped due => exact .select _ _ (.clock _ .nil)
  | ended reads =>
    cases reads with
    | failed => exact .select _ _ .nil
    | absent => exact .select _ _ .nil
    | expired due => exact .drop due _ .nil
    | inForce valid => exact .select _ _ (.clock _ .nil)

/-- Whether an operation only reads, or drops what has expired. -/
def Operation.IsQuiet {α : Type} : Operation α → Prop
  | .get _ _ => True
  | .purge => True
  | _ => False

theorem Store.row?_eraseExpired_of_inForce {store : Store} {place : Place} {row : Row}
    {moment : Nat} (found : store.row? place = some row) (valid : row.isExpired moment = false) :
    (store.eraseExpired moment).row? place = some row := by
  obtain ⟨before, after, split, apart⟩ := List.lookup_eq_some_iff.mp found
  refine List.lookup_eq_some_iff.mpr
    ⟨before.filter fun entry => !entry.2.isExpired moment,
      after.filter fun entry => !entry.2.isExpired moment, ?_, ?_⟩
  · simp [eraseExpired, split, valid]
  · exact fun entry member => apart entry (List.mem_filter.mp member).1

theorem Operation.inForce?_run {α : Type} {operation : Operation α} {now moment : Nat}
    {store : Store} {place : Place} {row : Row} (quiet : operation.IsQuiet) (wait : now ≤ moment)
    (inForce : store.inForce? moment place = some row) :
    (operation.run now store).2.inForce? moment place = some row := by
  obtain ⟨found, valid⟩ := Store.inForce?_eq_some_iff.mp inForce
  have before : row.isExpired now = false := Row.inForce_of_le wait valid
  refine Store.inForce?_eq_some_iff.mpr ⟨?_, valid⟩
  cases operation with
  | get decode other =>
    rw [Operation.run, run_get_store]
    split
    · rename_i dropped
      have different : place ≠ other := by
        rintro rfl
        simp [found, before] at dropped
      exact (Store.row?_erase_of_ne different store).trans found
    · exact found
  | purge =>
    by_cases opened : store.isOpen = true
    · simpa [Operation.run, purgeExpired, Access.run, Access.changed, opened] using
        Store.row?_eraseExpired_of_inForce found before
    · simpa [Operation.run, purgeExpired, Access.run, Access.changed, opened] using found
  | _ => exact quiet.elim

theorem Operation.isOpen_run {α : Type} {operation : Operation α} (quiet : operation.IsQuiet)
    (now : Nat) (store : Store) : (operation.run now store).2.isOpen = store.isOpen := by
  cases operation with
  | get decode other =>
    rw [Operation.run, run_get_store]
    split <;> rfl
  | purge =>
    simp only [Operation.run, purgeExpired, Access.run, Access.changed]
    split <;> rfl
  | _ => exact quiet.elim

/-- What stays in force outlives any history of quiet uses. -/
theorem Store.inForce?_foldl_use {history : List Use} {moment : Nat} {store : Store}
    {place : Place} {row : Row} (quiet : ∀ use ∈ history, use.operation.IsQuiet)
    (past : ∀ use ∈ history, use.now ≤ moment) (inForce : store.inForce? moment place = some row) :
    (history.foldl use store).inForce? moment place = some row := by
  induction history generalizing store with
  | nil => exact inForce
  | cons use rest ih =>
    exact ih (fun other member => quiet other (List.mem_cons_of_mem _ member))
      (fun other member => past other (List.mem_cons_of_mem _ member))
      (Operation.inForce?_run (quiet use List.mem_cons_self) (past use List.mem_cons_self) inForce)

theorem Store.isOpen_foldl_use {history : List Use}
    (quiet : ∀ use ∈ history, use.operation.IsQuiet) (store : Store) :
    (history.foldl use store).isOpen = store.isOpen := by
  induction history generalizing store with
  | nil => rfl
  | cons use rest ih =>
    exact (ih (fun other member => quiet other (List.mem_cons_of_mem _ member)) _).trans
      (Operation.isOpen_run (quiet use List.mem_cons_self) use.now store)

end FleetSearch.Cache
