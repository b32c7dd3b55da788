import FleetSearch.Cache.Values

/-! What an access says to the store and hears from it. A log of exchanges forgets who else took
steps in between, so that an access can be reasoned about by itself and then be placed in any
run. -/

namespace FleetSearch.Cache

/-- A statement with its reply, or a look at the clock. -/
inductive Exchange where
  | clock (now : Nat)
  | select (place : Place) (reply : Except CacheError (Option Row))
  | insert (place : Place) (row : Row) (reply : Except CacheError Unit)
  | erase (place : Place) (reply : Except CacheError Unit)
  | eraseExpired (moment : Nat) (reply : Except CacheError Nat)

namespace Exchange

/-- Whether the reply is the one that a store gives at a moment. -/
def At (now : Nat) (store : Store) : Exchange → Prop
  | .clock moment => moment = now
  | .select place reply => reply = Access.reply store (store.row? place)
  | .insert _ _ reply => reply = Access.reply store ()
  | .erase _ reply => reply = Access.reply store ()
  | .eraseExpired moment reply =>
    reply = Access.reply store (store.size - (store.eraseExpired moment).size)

/-- The store after an exchange. -/
def apply (store : Store) : Exchange → Store
  | .clock _ => store
  | .select _ _ => store
  | .insert place row _ => Access.changed store (store.insert place row)
  | .erase place _ => Access.changed store (store.erase place)
  | .eraseExpired moment _ => Access.changed store (store.eraseExpired moment)

/-- Whether it is a write under a bucket. -/
def writesTo (bucket : String) : Exchange → Bool
  | .insert place _ _ => place.bucket == bucket
  | _ => false

/-- Whether it neither looks at nor changes anything but one place, and writes nothing there. -/
def ReadsOnly (place : Place) : Exchange → Prop
  | .clock _ => True
  | .select other _ => other = place
  | .erase other _ => other = place
  | _ => False

theorem ReadsOnly.writesTo {place : Place} {exchange : Exchange}
    (reads : exchange.ReadsOnly place) (bucket : String) : exchange.writesTo bucket = false := by
  cases exchange <;> first | rfl | exact reads.elim

end Exchange

namespace Store

theorem row?_erase_self (store : Store) (place : Place) :
    (store.erase place).row? place = none := by
  simp only [row?, erase, List.lookup_eq_none_iff]
  intro entry member
  have different : entry.1 ≠ place := by simpa using (List.mem_filter.mp member).2
  simpa using Ne.symm different

theorem row?_erase_of_ne {place other : Place} (different : other ≠ place) (store : Store) :
    (store.erase place).row? other = store.row? other := by
  unfold row? erase
  induction store.rows with
  | nil => rfl
  | cons entry rest ih =>
    obtain ⟨first, row⟩ := entry
    by_cases same : first = place
    · subst first
      simpa [List.lookup_cons, beq_eq_false_iff_ne.mpr different] using ih
    · by_cases found : other = first
      · subst found
        simp [same]
      · simpa [same, List.lookup_cons, beq_eq_false_iff_ne.mpr found] using ih

theorem row?_insert_self (store : Store) (place : Place) (row : Row) :
    (store.insert place row).row? place = some row := by
  simp [row?, insert]

theorem row?_insert_of_ne {place other : Place} (different : other ≠ place) (store : Store)
    (row : Row) : (store.insert place row).row? other = store.row? other := by
  have erased := row?_erase_of_ne different store
  simpa [row?, insert, List.lookup_cons, beq_eq_false_iff_ne.mpr different] using erased

theorem mem_rows_of_row? {store : Store} {place : Place} {row : Row}
    (found : store.row? place = some row) : (place, row) ∈ store.rows := by
  obtain ⟨before, after, split, _⟩ := List.lookup_eq_some_iff.mp found
  simp [split]

end Store

namespace Access

variable {α β : Type}

/-- The exchange of the next step; an access with a result makes none. -/
def exchange? (now : Nat) (store : Store) : Access α → Option Exchange
  | .done _ => none
  | .clock _ => some (.clock now)
  | .select place _ => some (.select place (reply store (store.row? place)))
  | .insert place row _ => some (.insert place row (reply store ()))
  | .erase place _ => some (.erase place (reply store ()))
  | .eraseExpired moment _ =>
    some (.eraseExpired moment (reply store (store.size - (store.eraseExpired moment).size)))

/-- What remains of an access after one exchange. -/
inductive Hears : Access α → Exchange → Access α → Prop where
  | clock {next : Nat → Access α} {now : Nat} : Hears (.clock next) (.clock now) (next now)
  | select {place : Place} {next : Except CacheError (Option Row) → Access α}
      {reply : Except CacheError (Option Row)} :
      Hears (.select place next) (.select place reply) (next reply)
  | insert {place : Place} {row : Row} {next : Except CacheError Unit → Access α}
      {reply : Except CacheError Unit} :
      Hears (.insert place row next) (.insert place row reply) (next reply)
  | erase {place : Place} {next : Except CacheError Unit → Access α}
      {reply : Except CacheError Unit} : Hears (.erase place next) (.erase place reply) (next reply)
  | eraseExpired {moment : Nat} {next : Except CacheError Nat → Access α}
      {reply : Except CacheError Nat} :
      Hears (.eraseExpired moment next) (.eraseExpired moment reply) (next reply)

/-- A log leads from an access to what remains of it. -/
inductive Leads : Access α → List Exchange → Access α → Prop where
  | refl {access : Access α} : Leads access [] access
  | step {access next last : Access α} {exchange : Exchange} {log : List Exchange}
      (hears : access.Hears exchange next) (rest : Leads next log last) :
      Leads access (exchange :: log) last

theorem step_of_exchange {now : Nat} {store : Store} {access : Access α} {exchange : Exchange}
    (made : access.exchange? now store = some exchange) :
    access.Hears exchange (access.step now store).1 ∧ exchange.At now store ∧
      (access.step now store).2 = exchange.apply store := by
  cases access <;> cases made <;> exact ⟨by constructor, rfl, rfl⟩

theorem step_of_no_exchange {now : Nat} {store : Store} {access : Access α}
    (made : access.exchange? now store = none) :
    (∃ result, access = .done result) ∧ access.step now store = (access, store) := by
  cases access <;> cases made
  exact ⟨⟨_, rfl⟩, rfl⟩

theorem Leads.trans {access middle last : Access α} {first second : List Exchange}
    (leads : Leads access first middle) (rest : Leads middle second last) :
    Leads access (first ++ second) last := by
  induction leads with
  | refl => exact rest
  | step hears _ ih => exact .step hears (ih rest)

theorem Leads.of_done {result : α} {last : Access α} {log : List Exchange}
    (leads : Leads (.done result) log last) : log = [] ∧ last = .done result := by
  cases leads with
  | refl => exact ⟨rfl, rfl⟩
  | step hears _ => cases hears

/-- A log of an access followed by another one falls into a log of each. -/
theorem Leads.of_bind {access : Access α} {next : α → Access β} {log : List Exchange} {result : β}
    (leads : Leads (access.bind next) log (.done result)) :
    ∃ middle first second, Leads access first (.done middle) ∧
      Leads (next middle) second (.done result) ∧ log = first ++ second := by
  -- The first access has its result as soon as it is done, which may be before the log is empty.
  induction log generalizing access with
  | nil =>
    cases access with
    | done middle => exact ⟨middle, [], [], .refl, leads, rfl⟩
    | _ => cases leads
  | cons exchange rest ih =>
    cases access with
    | done middle => exact ⟨middle, [], _, .refl, leads, rfl⟩
    | _ =>
      obtain _ | ⟨hears, tail⟩ := leads
      cases hears
      obtain ⟨middle, first, second, before, after, split⟩ := ih tail
      exact ⟨middle, _ :: first, second, .step (by constructor) before, after, by simp [split]⟩

/-- Whether no course of an access writes anything. -/
def WritesNothing : Access α → Prop
  | .done _ => True
  | .clock next => ∀ now, (next now).WritesNothing
  | .select _ next => ∀ reply, (next reply).WritesNothing
  | .insert _ _ _ => False
  | .erase _ next => ∀ reply, (next reply).WritesNothing
  | .eraseExpired _ next => ∀ reply, (next reply).WritesNothing

theorem WritesNothing.bind {access : Access α} {next : α → Access β}
    (first : access.WritesNothing) (second : ∀ result, (next result).WritesNothing) :
    (access.bind next).WritesNothing := by
  induction access with
  | done result => exact second result
  | insert => exact first.elim
  | clock rest ih => exact fun now => ih now (first now)
  | select place rest ih => exact fun reply => ih reply (first reply)
  | erase place rest ih => exact fun reply => ih reply (first reply)
  | eraseExpired moment rest ih => exact fun reply => ih reply (first reply)

theorem WritesNothing.not_insert {access : Access α} (silent : access.WritesNothing) {now : Nat}
    {store : Store} {place : Place} {row : Row} {reply : Except CacheError Unit} :
    access.exchange? now store ≠ some (.insert place row reply) := by
  cases access with
  | insert => exact silent.elim
  | _ => simp [exchange?]

theorem WritesNothing.of_leads {access last : Access α} {log : List Exchange}
    (silent : access.WritesNothing) (leads : Leads access log last) : last.WritesNothing := by
  induction leads with
  | refl => exact silent
  | step hears _ ih =>
    apply ih
    cases hears with
    | insert => exact silent.elim
    | _ => exact silent _

end Access

namespace Exchange

/-- The store after a log. -/
def after (store : Store) (log : List Exchange) : Store :=
  log.foldl apply store

/-- Whether a log can be what happens on a store from one moment to another, with nobody else at
the store. Time may pass between two exchanges. -/
def Performed : Nat → Store → List Exchange → Nat → Prop
  | now, _, [], last => now ≤ last
  | now, store, exchange :: rest, last =>
    ∃ moment, now ≤ moment ∧ exchange.At moment store ∧
      Performed moment (exchange.apply store) rest last

theorem mem_rows_of_at {now : Nat} {store : Store} {place : Place} {row : Row}
    (looked : (Exchange.select place (.ok (some row))).At now store) :
    (place, row) ∈ store.rows := by
  have replied : .ok (some row) = Access.reply store (store.row? place) := looked
  unfold Access.reply at replied
  split at replied
  · exact Store.mem_rows_of_row? (Except.ok.inj replied).symm
  · cases replied

theorem Performed.le {now last : Nat} {store : Store} {log : List Exchange}
    (performed : Performed now store log last) : now ≤ last := by
  induction log generalizing now store with
  | nil => exact performed
  | cons exchange rest ih =>
    obtain ⟨moment, later, _, tail⟩ := performed
    exact Nat.le_trans later (ih tail)

theorem performed_append_iff {now last : Nat} {store : Store} {first second : List Exchange} :
    Performed now store (first ++ second) last ↔
      ∃ middle, Performed now store first middle ∧
        Performed middle (after store first) second last := by
  induction first generalizing now store with
  | nil =>
    constructor
    · intro performed
      exact ⟨now, Nat.le_refl now, performed⟩
    · intro ⟨middle, later, performed⟩
      cases second with
      | nil => exact Nat.le_trans later performed
      | cons exchange rest =>
        obtain ⟨moment, wait, made, tail⟩ := performed
        exact ⟨moment, Nat.le_trans later wait, made, tail⟩
  | cons exchange rest ih =>
    constructor
    · intro ⟨moment, wait, made, tail⟩
      obtain ⟨middle, before, remaining⟩ := ih.mp tail
      exact ⟨middle, ⟨moment, wait, made, before⟩, remaining⟩
    · intro ⟨middle, ⟨moment, wait, made, before⟩, remaining⟩
      exact ⟨moment, wait, made, ih.mpr ⟨middle, before, remaining⟩⟩

theorem Performed.wait {now last later : Nat} {store : Store} {log : List Exchange}
    (performed : Performed now store log last) (wait : last ≤ later) :
    Performed now store log later := by
  have extended : Performed now store (log ++ []) later :=
    performed_append_iff.mpr ⟨last, performed, wait⟩
  simpa using extended

theorem Performed.snoc {now last : Nat} {store : Store} {log : List Exchange} {exchange : Exchange}
    (performed : Performed now store log last) (made : exchange.At last (after store log)) :
    Performed now store (log ++ [exchange]) last :=
  performed_append_iff.mpr ⟨last, performed, last, Nat.le_refl last, made, Nat.le_refl last⟩

theorem Performed.middle {now last : Nat} {store : Store} {first second : List Exchange}
    {exchange : Exchange} (performed : Performed now store (first ++ exchange :: second) last) :
    ∃ moment, now ≤ moment ∧ moment ≤ last ∧ exchange.At moment (after store first) := by
  obtain ⟨between, before, moment, wait, made, rest⟩ := performed_append_iff.mp performed
  exact ⟨moment, Nat.le_trans before.le wait, rest.le, made⟩

theorem isOpen_apply (store : Store) (exchange : Exchange) :
    (exchange.apply store).isOpen = store.isOpen := by
  cases exchange <;> simp only [apply, Access.changed] <;> split <;> rfl

theorem isOpen_after (store : Store) (log : List Exchange) :
    (after store log).isOpen = store.isOpen := by
  induction log generalizing store with
  | nil => rfl
  | cons exchange rest ih => exact (ih _).trans (isOpen_apply store exchange)

/-- What only reads in one place leaves the rows elsewhere alone. -/
theorem row?_after_of_reads {place other : Place} (different : other ≠ place) (store : Store)
    {log : List Exchange} (reads : ∀ exchange ∈ log, exchange.ReadsOnly place) :
    (after store log).row? other = store.row? other := by
  induction log generalizing store with
  | nil => rfl
  | cons exchange rest ih =>
    have tail := ih (exchange.apply store) fun later member => reads later (by simp [member])
    have head : (exchange.apply store).row? other = store.row? other := by
      have kind := reads exchange (by simp)
      cases exchange with
      | erase erased reply =>
        have same : erased = place := kind
        subst same
        simp only [apply, Access.changed]
        split
        · exact Store.row?_erase_of_ne different store
        · rfl
      | insert => exact kind.elim
      | eraseExpired => exact kind.elim
      | _ => rfl
    exact tail.trans head

end Exchange

/-- The ways a read can go. A row that has expired is dropped on the way. -/
inductive Reads {α : Type} (decode : Json.Decoder α) (place : Place) :
    List Exchange → Except CacheError α → Prop where
  | failed {error : CacheError} : Reads decode place [.select place (.error error)] (.error error)
  | absent : Reads decode place [.select place (.ok none)] (.error .miss)
  | expired {row : Row} {now : Nat} {reply : Except CacheError Unit}
      (due : row.isExpired now = true) :
      Reads decode place [.select place (.ok (some row)), .clock now, .erase place reply]
        (.error .miss)
  | inForce {row : Row} {now : Nat} (valid : row.isExpired now = false) :
      Reads decode place [.select place (.ok (some row)), .clock now] (spelled decode row.text)

/-- How far a read can have come, with what remains of it. -/
inductive Reading {α : Type} (decode : Json.Decoder α) (place : Place) :
    List Exchange → Access (Except CacheError α) → Prop where
  | unasked (next : Except CacheError (Option Row) → Access (Except CacheError α)) :
      Reading decode place [] (.select place next)
  | untimed (row : Row) (next : Nat → Access (Except CacheError α)) :
      Reading decode place [.select place (.ok (some row))] (.clock next)
  | undropped {row : Row} {now : Nat} (due : row.isExpired now = true)
      (next : Except CacheError Unit → Access (Except CacheError α)) :
      Reading decode place [.select place (.ok (some row)), .clock now] (.erase place next)
  | ended {log : List Exchange} {found : Except CacheError α}
      (reads : Reads decode place log found) : Reading decode place log (.done found)

section Reading

variable {α : Type} {decode : Json.Decoder α} {place : Place} {log : List Exchange}
  {found : Except CacheError α}

theorem Reading.of_leads {access : Access (Except CacheError α)}
    (leads : (get decode place).Leads log access) : Reading decode place log access := by
  obtain _ | ⟨hears, rest⟩ := leads
  · exact .unasked _
  cases hears with
  | @select _ _ reply =>
    match reply with
    | .error error =>
      obtain ⟨rfl, rfl⟩ := rest.of_done
      exact .ended .failed
    | .ok none =>
      obtain ⟨rfl, rfl⟩ := rest.of_done
      exact .ended .absent
    | .ok (some row) =>
      obtain _ | ⟨hears, rest⟩ := rest
      · exact .untimed row _
      cases hears with
      | @clock _ now =>
        by_cases due : row.isExpired now = true
        · simp only [due, ↓reduceIte, Access.bind] at rest
          obtain _ | ⟨hears, rest⟩ := rest
          · exact .undropped due _
          cases hears
          obtain ⟨rfl, rfl⟩ := rest.of_done
          exact .ended (.expired due)
        · simp only [due, Bool.false_eq_true, ↓reduceIte, Access.bind] at rest
          obtain ⟨rfl, rfl⟩ := rest.of_done
          exact .ended (.inForce (Bool.eq_false_iff.mpr due))

theorem Reads.of_leads (leads : (get decode place).Leads log (.done found)) :
    Reads decode place log found := by
  cases Reading.of_leads leads with
  | ended reads => exact reads

theorem Reads.readsOnly (reads : Reads decode place log found) :
    ∀ exchange ∈ log, exchange.ReadsOnly place := by
  cases reads <;> simp [Exchange.ReadsOnly]

theorem get_writesNothing (decode : Json.Decoder α) (place : Place) :
    (get decode place).WritesNothing := by
  refine .bind ?_ fun _ => trivial
  intro reply
  match reply with
  | .error _ => trivial
  | .ok none => trivial
  | .ok (some row) =>
    intro now
    by_cases due : row.isExpired now = true
    · simp [due, Access.WritesNothing]
    · simp [due, Access.WritesNothing]

theorem run_get (decode : Json.Decoder α) (place : Place) (now : Nat) (store : Store) :
    ((get decode place).run now store).1 =
      match Access.reply store (store.row? place) with
      | .error error => .error error
      | .ok none => .error .miss
      | .ok (some row) =>
        if row.isExpired now then .error .miss else spelled decode row.text := by
  simp only [get, textInForce, Access.bind, Access.run]
  cases Access.reply store (store.row? place) with
  | error => rfl
  | ok found =>
    cases found with
    | none => rfl
    | some row =>
      by_cases due : row.isExpired now = true <;> simp [due, Access.bind, Access.run, Except.bind]

theorem run_get_congr {first second : Store} (now : Nat) (opened : first.isOpen = second.isOpen)
    (row : first.row? place = second.row? place) :
    ((get decode place).run now first).1 = ((get decode place).run now second).1 := by
  simp only [run_get, Access.reply, opened, row]

theorem run_put_get {β : Type} {encode : β → Option String} (decode : Json.Decoder α)
    (place : Place) {value : β} {text : String} {lifetime : Lifetime} {now later : Nat}
    {store : Store} (opened : store.isOpen = true) (encoded : encode value = some text)
    (inForce : ∀ moment ∈ lifetime.deadline? now, later < moment) :
    let kept := (put encode place value lifetime).run now store
    kept.1 = .ok () ∧ ((get decode place).run later kept.2).1 = spelled decode text := by
  have valid : Row.isExpired ⟨text, lifetime.deadline? now⟩ later = false := by
    cases due : lifetime.deadline? now with
    | none => rfl
    | some moment => simpa [Row.isExpired] using inForce moment due
  have row : (store.insert place ⟨text, lifetime.deadline? now⟩).row? place =
      some ⟨text, lifetime.deadline? now⟩ := Store.row?_insert_self ..
  have still : (store.insert place ⟨text, lifetime.deadline? now⟩).isOpen = true := opened
  simp only [put, encoded, Access.run, Access.changed, opened, if_true, run_get, row]
  simp [Access.reply, opened, still, valid]

/-- A read that nobody interrupts finds what a read at one of its moments finds. -/
theorem Reads.eq_run {now last : Nat} {store : Store} (reads : Reads decode place log found)
    (performed : Exchange.Performed now store log last) :
    ∃ moment, now ≤ moment ∧ moment ≤ last ∧ found = ((get decode place).run moment store).1 := by
  cases reads with
  | failed =>
    obtain ⟨asked, wait, made, rest⟩ := performed
    exact ⟨asked, wait, rest, by rw [run_get, ← made]⟩
  | absent =>
    obtain ⟨asked, wait, made, rest⟩ := performed
    exact ⟨asked, wait, rest, by rw [run_get, ← made]⟩
  | @expired row moment _ due =>
    obtain ⟨asked, wait, made, _, later, rfl, erased, afterwards, _, rest⟩ := performed
    refine ⟨moment, Nat.le_trans wait later, Nat.le_trans afterwards rest, ?_⟩
    rw [run_get, ← made]
    simp [due]
  | @inForce row moment valid =>
    obtain ⟨asked, wait, made, _, later, rfl, rest⟩ := performed
    refine ⟨moment, Nat.le_trans wait later, rest, ?_⟩
    rw [run_get, ← made]
    simp [valid]

end Reading

end FleetSearch.Cache
