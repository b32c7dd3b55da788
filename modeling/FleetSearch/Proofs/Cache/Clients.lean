import FleetSearch.Proofs.Cache.Exchange

/-! Clients that read and write one store side by side, a statement at a time. What a write puts
in its place is found by every read that starts afterwards, unless a read from before the write
drops it: that one has seen an expired row, and does not look again at what it drops. -/

namespace FleetSearch.Cache

open FleetSearch.Json (Decoder)

/-- A read or a write, with what remains of it. -/
inductive Client : Type 1 where
  | getter {α : Type} (decode : Decoder α) (place : Place) (access : Access (Except CacheError α))
  | putter {α : Type} (encode : α → Option String) (place : Place) (value : α)
      (lifetime : Lifetime) (access : Access (Except CacheError Unit))

namespace Client

/-- The exchange of the next step. -/
def exchange? (now : Nat) (store : Store) : Client → Option Exchange
  | .getter _ _ access => access.exchange? now store
  | .putter _ _ _ _ access => access.exchange? now store

/-- The next step. -/
def step (now : Nat) (store : Store) : Client → Client × Store
  | .getter decode place access =>
    let (access, store) := access.step now store
    (.getter decode place access, store)
  | .putter encode place value lifetime access =>
    let (access, store) := access.step now store
    (.putter encode place value lifetime access, store)

/-- Whether a client has come as far as it is by these exchanges. -/
def Follows (log : List Exchange) : Client → Prop
  | .getter decode place access => (get decode place).Leads log access
  | .putter encode place value lifetime access => (put encode place value lifetime).Leads log access

end Client

/-- Clients in the order in which they started, at one store. -/
structure Clients where
  now : Nat
  store : Store
  calls : List Client := []

/-- What can happen. -/
inductive Action : Type 1 where
  | wait (millis : Nat)
  /-- A read starts. -/
  | get {α : Type} (decode : Decoder α) (place : Place)
  /-- A write starts. -/
  | put {α : Type} (encode : α → Option String) (place : Place) (value : α) (lifetime : Lifetime)
  /-- A client takes its next step. -/
  | work (index : Nat)

namespace Clients

/-- What an action does. -/
def step (action : Action) (clients : Clients) : Clients :=
  match action with
  | .wait millis => { clients with now := clients.now + millis }
  | .get decode place =>
    { clients with calls := clients.calls ++ [.getter decode place (get decode place)] }
  | .put encode place value lifetime =>
    let access := put encode place value lifetime
    { clients with calls := clients.calls ++ [.putter encode place value lifetime access] }
  | .work index =>
    match clients.calls[index]? with
    | none => clients
    | some client =>
      let (client, store) := client.step clients.now clients.store
      { clients with store, calls := clients.calls.set index client }

/-- The exchange that an action brings about, with the client that makes it. -/
def exchange? (action : Action) (clients : Clients) : Option (Nat × Exchange) :=
  match action with
  | .work index =>
    (clients.calls[index]?.bind (Client.exchange? clients.now clients.store)).map
      fun exchange => (index, exchange)
  | _ => none

/-- The clients come this far with these exchanges. -/
inductive Reaches (start : Clients) : List (Nat × Exchange) → Clients → Prop where
  | start : Reaches start [] start
  | step {log : List (Nat × Exchange)} {clients : Clients} (action : Action)
      (before : Reaches start log clients) :
      Reaches start (log ++ (clients.exchange? action).toList) (clients.step action)

end Clients

/-- The exchanges of one client. -/
def partOf (index : Nat) (log : List (Nat × Exchange)) : List Exchange :=
  (log.filter fun entry => entry.1 == index).map Prod.snd

theorem partOf_append (index : Nat) (first second : List (Nat × Exchange)) :
    partOf index (first ++ second) = partOf index first ++ partOf index second := by
  simp [partOf]

theorem mem_partOf_iff {index : Nat} {log : List (Nat × Exchange)} {exchange : Exchange} :
    exchange ∈ partOf index log ↔ (index, exchange) ∈ log := by
  simp [partOf]

section Steps

variable {client : Client} {now : Nat} {store : Store} {log : List Exchange} {exchange : Exchange}

theorem Client.step_of_exchange (made : client.exchange? now store = some exchange)
    (follows : client.Follows log) :
    (client.step now store).1.Follows (log ++ [exchange]) ∧ exchange.At now store ∧
      (client.step now store).2 = exchange.apply store := by
  cases client with
  | getter =>
    obtain ⟨hears, asked, changed⟩ := Access.step_of_exchange made
    exact ⟨Access.Leads.trans follows (.step hears .refl), asked, changed⟩
  | putter =>
    obtain ⟨hears, asked, changed⟩ := Access.step_of_exchange made
    exact ⟨Access.Leads.trans follows (.step hears .refl), asked, changed⟩

theorem Client.step_of_no_exchange (made : client.exchange? now store = none) :
    client.step now store = (client, store) := by
  cases client with
  | getter => simp [step, (Access.step_of_no_exchange made).2]
  | putter => simp [step, (Access.step_of_no_exchange made).2]

end Steps

namespace Clients

variable {start clients later : Clients} {log more : List (Nat × Exchange)}

/-- An action either leaves the store alone or makes one exchange with it. -/
theorem step_cases (action : Action) (clients : Clients) :
    (clients.exchange? action = none ∧ clients.now ≤ (clients.step action).now ∧
      (clients.step action).store = clients.store) ∨
    ∃ index exchange, clients.exchange? action = some (index, exchange) ∧
      exchange.At clients.now clients.store ∧ (clients.step action).now = clients.now ∧
      (clients.step action).store = exchange.apply clients.store := by
  cases action with
  | wait millis => exact .inl ⟨rfl, Nat.le_add_right .., rfl⟩
  | get decode place => exact .inl ⟨rfl, Nat.le_refl _, rfl⟩
  | put encode place value lifetime => exact .inl ⟨rfl, Nat.le_refl _, rfl⟩
  | work index =>
    cases found : clients.calls[index]? with
    | none => exact .inl (by simp [exchange?, step, found])
    | some client =>
      cases made : client.exchange? clients.now clients.store with
      | none => exact .inl (by simp [exchange?, step, found, made, Client.step_of_no_exchange made])
      | some exchange =>
        refine .inr ⟨index, exchange, by simp [exchange?, found, made], ?_⟩
        cases client with
        | getter =>
          obtain ⟨_, asked, changed⟩ := Access.step_of_exchange made
          exact ⟨asked, by simp [step, found], by simpa [step, found, Client.step] using changed⟩
        | putter =>
          obtain ⟨_, asked, changed⟩ := Access.step_of_exchange made
          exact ⟨asked, by simp [step, found], by simpa [step, found, Client.step] using changed⟩

theorem Reaches.trans (first : Reaches start log clients) (second : Reaches clients more later) :
    Reaches start (log ++ more) later := by
  induction second with
  | start => simpa using first
  | step action _ ih => simpa using ih.step action

theorem Reaches.performed (reached : Reaches start log clients) :
    Exchange.Performed start.now start.store (log.map Prod.snd) clients.now ∧
      clients.store = Exchange.after start.store (log.map Prod.snd) := by
  induction reached with
  | start => exact ⟨Nat.le_refl _, rfl⟩
  | @step log clients action before ih =>
    obtain ⟨performed, stored⟩ := ih
    rcases clients.step_cases action with
      ⟨made, wait, kept⟩ | ⟨index, exchange, made, asked, same, changed⟩
    · simpa [made] using And.intro (performed.wait wait) (kept.trans stored)
    · rw [made, same, changed, stored]
      refine ⟨?_, ?_⟩
      · simpa using performed.snoc (stored ▸ asked)
      · simp [Exchange.after]

/-- Every client follows its part of the log, and nobody else is in it. -/
structure Accounts (calls : List Client) (log : List (Nat × Exchange)) : Prop where
  follows : ∀ (index : Nat) (client : Client), calls[index]? = some client →
    client.Follows (partOf index log)
  bounded : ∀ entry ∈ log, entry.1 < calls.length

theorem Accounts.enter {calls : List Client} (accounts : Accounts calls log) (client : Client)
    (begins : client.Follows []) : Accounts (calls ++ [client]) log := by
  refine ⟨?_, fun entry member => by simpa using Nat.lt_succ_of_lt (accounts.bounded entry member)⟩
  intro index other found
  by_cases old : index < calls.length
  · exact accounts.follows index other (by simpa [List.getElem?_append_left old] using found)
  · have last : index = calls.length ∧ other = client := by
      rw [List.getElem?_append_right (Nat.le_of_not_lt old), List.getElem?_singleton] at found
      split at found
      · cases found
        exact ⟨by omega, rfl⟩
      · cases found
    obtain ⟨rfl, rfl⟩ := last
    have silent : partOf calls.length log = [] := by
      apply List.eq_nil_iff_forall_not_mem.mpr
      intro exchange member
      exact Nat.lt_irrefl _ (accounts.bounded _ (mem_partOf_iff.mp member))
    rwa [silent]

/-- A client that makes an exchange follows a longer part, and the others follow theirs. -/
theorem Accounts.work {calls : List Client} (accounts : Accounts calls log) {index now : Nat}
    {store : Store} {client : Client} {exchange : Exchange} (found : calls[index]? = some client)
    (made : client.exchange? now store = some exchange) :
    Accounts (calls.set index (client.step now store).1) (log ++ [(index, exchange)]) := by
  have within : index < calls.length := (List.getElem?_eq_some_iff.mp found).1
  refine ⟨?_, ?_⟩
  · intro other next present
    rw [partOf_append]
    by_cases same : other = index
    · subst same
      rw [List.getElem?_set_self within] at present
      cases present
      have advanced := (Client.step_of_exchange made (accounts.follows other client found)).1
      simpa [partOf] using advanced
    · rw [List.getElem?_set_ne (Ne.symm same)] at present
      simpa [partOf, Ne.symm same] using accounts.follows other next present
  · intro entry member
    rw [List.length_set]
    rcases List.mem_append.mp member with old | new
    · exact accounts.bounded entry old
    · cases List.mem_singleton.mp new
      exact within

theorem Reaches.accounts (reached : Reaches start log clients) (fresh : start.calls = []) :
    Accounts clients.calls log := by
  induction reached with
  | start => exact ⟨by simp [fresh], by simp⟩
  | @step log clients action before ih =>
    cases action with
    | wait millis => simpa [Clients.step, exchange?] using ih
    | get decode place =>
      simpa [Clients.step, exchange?] using ih.enter (.getter decode place (get decode place)) .refl
    | put encode place value lifetime =>
      simpa [Clients.step, exchange?] using
        ih.enter (.putter encode place value lifetime (put encode place value lifetime)) .refl
    | work index =>
      cases found : clients.calls[index]? with
      | none => simpa [Clients.step, exchange?, found] using ih
      | some client =>
        cases made : client.exchange? clients.now clients.store with
        | none =>
          have same : clients.calls.set index client = clients.calls := by
            rw [← (List.getElem?_eq_some_iff.mp found).2, List.set_getElem_self]
          have stays := Client.step_of_no_exchange made
          simpa [Clients.step, exchange?, found, made, stays, same] using ih
        | some exchange => simpa [Clients.step, exchange?, found, made] using ih.work found made

theorem Reaches.client {index : Nat} {exchange : Exchange} (reached : Reaches start log clients)
    (fresh : start.calls = []) (member : (index, exchange) ∈ log) :
    ∃ client : Client, client.Follows (partOf index log) ∧ exchange ∈ partOf index log := by
  obtain ⟨follows, bounded⟩ := reached.accounts fresh
  have within : index < clients.calls.length := bounded _ member
  exact ⟨_, follows index _ (List.getElem?_eq_getElem within), mem_partOf_iff.mpr member⟩

/-- Nobody has seen a later moment than now. -/
theorem Reaches.clock_le {index moment : Nat} (reached : Reaches start log clients)
    (member : (index, .clock moment) ∈ log) : moment ≤ clients.now := by
  obtain ⟨first, second, split⟩ := List.append_of_mem member
  have performed := reached.performed.1
  rw [split, List.map_append, List.map_cons] at performed
  obtain ⟨_, _, early, rfl⟩ := performed.middle
  exact early

end Clients

/-- Whether it drops the row in a place, whatever that is. -/
def Exchange.erases (place : Place) : Exchange → Bool
  | .erase other _ => other == place
  | _ => false

theorem Exchange.erases_iff {place : Place} {exchange : Exchange} :
    exchange.erases place = true ↔ ∃ reply, exchange = .erase place reply := by
  cases exchange <;> simp [erases]

/-- Whether it neither puts a row in a place nor drops rows for their age. -/
def Exchange.Spares (place : Place) : Exchange → Prop
  | .insert other _ _ => other ≠ place
  | .eraseExpired _ _ => False
  | _ => True

theorem row?_apply_of_spares {place : Place} {store : Store} {exchange : Exchange}
    (opened : store.isOpen = true) (spares : exchange.Spares place) :
    (exchange.apply store).row? place =
      if exchange.erases place then none else store.row? place := by
  cases exchange with
  | insert other row reply =>
    have elsewhere := Store.row?_insert_of_ne (Ne.symm spares) store row
    simpa [Exchange.apply, Access.changed, opened, Exchange.erases] using elsewhere
  | erase other reply =>
    by_cases same : other = place
    · subst same
      simp [Exchange.apply, Access.changed, opened, Exchange.erases, Store.row?_erase_self]
    · have elsewhere := Store.row?_erase_of_ne (Ne.symm same) store
      simpa [Exchange.apply, Access.changed, opened, Exchange.erases, same] using elsewhere
  | eraseExpired => exact spares.elim
  | _ => simp [Exchange.apply, Exchange.erases]

theorem row?_after_of_spares {place : Place} {store : Store} {log : List Exchange}
    (opened : store.isOpen = true) (spares : ∀ exchange ∈ log, exchange.Spares place) :
    (Exchange.after store log).row? place =
      if log.any (Exchange.erases place) then none else store.row? place := by
  induction log generalizing store with
  | nil => rfl
  | cons exchange rest ih =>
    have head := row?_apply_of_spares opened (spares exchange (by simp))
    have tail := ih ((Exchange.isOpen_apply store exchange).trans opened)
      fun later member => spares later (by simp [member])
    rw [Exchange.after, List.foldl_cons, ← Exchange.after, tail, head, List.any_cons]
    cases exchange.erases place <;> cases rest.any (Exchange.erases place) <;> rfl

theorem Row.isExpired_mono {row : Row} {now later : Nat} (wait : now ≤ later)
    (due : row.isExpired now = true) : row.isExpired later = true := by
  unfold isExpired at due ⊢
  split at due
  · rename_i moment _
    simpa using Nat.le_trans (by simpa using due) wait
  · cases due

theorem spelled_ne_miss {α : Type} (decode : Decoder α) (text : String) :
    spelled decode text ≠ .error .miss := by
  unfold spelled
  split <;> simp

/-- How far a write can have come, with what remains of it. -/
inductive WritesSoFar (place : Place) (text? : Option String) (lifetime : Lifetime) :
    List Exchange → Access (Except CacheError Unit) → Prop where
  | unencoded (result : Except CacheError Unit) :
      WritesSoFar place text? lifetime [] (.done result)
  | untimed (next : Nat → Access (Except CacheError Unit)) :
      WritesSoFar place text? lifetime [] (.clock next)
  | timed {text : String} (encoded : text? = some text) (now : Nat)
      (next : Except CacheError Unit → Access (Except CacheError Unit)) :
      WritesSoFar place text? lifetime [.clock now]
        (.insert place ⟨text, lifetime.deadline? now⟩ next)
  | ended (row : Row) (now : Nat) (reply : Except CacheError Unit) :
      WritesSoFar place text? lifetime [.clock now, .insert place row reply] (.done reply)

section Parts

variable {α : Type} {place : Place} {log : List Exchange}

theorem WritesSoFar.of_leads {encode : α → Option String} {value : α} {lifetime : Lifetime}
    {access : Access (Except CacheError Unit)}
    (leads : (put encode place value lifetime).Leads log access) :
    WritesSoFar place (encode value) lifetime log access := by
  unfold put at leads
  split at leads
  · obtain ⟨rfl, rfl⟩ := leads.of_done
    exact .unencoded _
  · rename_i text encoded
    obtain _ | ⟨hears, rest⟩ := leads
    · exact .untimed _
    cases hears with
    | @clock _ now =>
      obtain _ | ⟨hears, rest⟩ := rest
      · exact .timed encoded now _
      cases hears with
      | @insert _ _ _ reply =>
        obtain ⟨rfl, rfl⟩ := rest.of_done
        exact .ended _ now reply

/-- Clients that read and write do not drop rows for their age. -/
theorem Client.not_eraseExpired {client : Client} (follows : client.Follows log) (moment : Nat)
    (reply : Except CacheError Nat) : .eraseExpired moment reply ∉ log := by
  cases client with
  | getter decode place access =>
    cases Reading.of_leads follows with
    | ended reads => cases reads <;> simp
    | _ => simp
  | putter encode place value lifetime access =>
    cases WritesSoFar.of_leads follows <;> simp

/-- A client drops a row only if it reads there and has seen a row of which the time was up. -/
theorem Client.erase {client : Client} (follows : client.Follows log) {place : Place}
    {reply : Except CacheError Unit} (erased : .erase place reply ∈ log) :
    ∃ row now, row.isExpired now = true ∧
      .select place (.ok (some row)) ∈ log ∧ .clock now ∈ log := by
  cases client with
  | getter decode other access =>
    cases Reading.of_leads follows with
    | ended reads =>
      cases reads with
      | expired due =>
        obtain ⟨rfl, rfl⟩ : place = other ∧ reply = _ := by simpa using erased
        exact ⟨_, _, due, by simp, by simp⟩
      | _ => simp at erased
    | _ => simp at erased
  | putter encode other value lifetime access =>
    cases WritesSoFar.of_leads follows <;> simp at erased

end Parts

/-- A row is in its place, nobody puts another one there for a while, and by the end of that its
time is not up. -/
structure Stays (place : Place) (row : Row) (written : Clients) (log : List (Nat × Exchange))
    (last : Nat) : Prop where
  opened : written.store.isOpen = true
  present : written.store.row? place = some row
  spared : ∀ exchange ∈ log.map Prod.snd, exchange.Spares place
  performed : Exchange.Performed written.now written.store (log.map Prod.snd) last
  valid : row.isExpired last = false

namespace Stays

variable {place : Place} {row : Row} {written : Clients} {log : List (Nat × Exchange)} {last : Nat}

/-- Who looks there sees the row, unless somebody has dropped it. -/
theorem select {index : Nat} {reply : Except CacheError (Option Row)}
    {earlier rest : List (Nat × Exchange)} (stays : Stays place row written log last)
    (split : log = earlier ++ (index, .select place reply) :: rest) :
    reply =
      .ok (if (earlier.map Prod.snd).any (Exchange.erases place) then none else some row) := by
  have performed := stays.performed
  rw [split, List.map_append, List.map_cons] at performed
  obtain ⟨_, _, _, made⟩ := performed.middle
  have kept : (Exchange.after written.store (earlier.map Prod.snd)).row? place = _ :=
    row?_after_of_spares stays.opened fun exchange member =>
      stays.spared exchange (by simp [split, List.mem_map.mp member])
  have asked : reply = Access.reply _ _ := made
  rw [asked, kept, Access.reply, Exchange.isOpen_after, stays.opened, stays.present]
  rfl

/-- Nobody sees an expired row there. -/
theorem select_eq {index : Nat} {seen : Row} (stays : Stays place row written log last)
    (member : (index, .select place (.ok (some seen))) ∈ log) : seen = row := by
  obtain ⟨earlier, rest, split⟩ := List.append_of_mem member
  have sees := stays.select split
  split at sees
  · cases sees
  · cases sees
    rfl

end Stays

namespace Clients

variable {start clients later : Clients} {before after : List (Nat × Exchange)} {writer : Nat}
  {α : Type} {encode : α → Option String} {value : α} {lifetime : Lifetime} {place : Place}
  {row : Row} {next : Except CacheError Unit → Access (Except CacheError Unit)}

/-- The last step of a write. -/
private theorem written (opened : clients.store.isOpen = true)
    (writes : clients.calls[writer]? =
      some (.putter encode place value lifetime (.insert place row next))) :
    clients.exchange? (.work writer) = some (writer, .insert place row (.ok ())) ∧
      (clients.step (.work writer)).store = clients.store.insert place row := by
  simp [exchange?, step, writes, Client.exchange?, Client.step, Access.exchange?, Access.step,
    Access.reply, Access.changed, opened]

/-- A row that was just written stays in its place, as long as nobody writes there. -/
private theorem stays_of_written (fresh : start.calls = [])
    (opened : clients.store.isOpen = true)
    (reached : start.Reaches before clients)
    (writes : clients.calls[writer]? =
      some (.putter encode place value lifetime (.insert place row next)))
    (followed : (clients.step (.work writer)).Reaches after later)
    (unwritten : ∀ index row reply, (index, .insert place row reply) ∉ after)
    (valid : row.isExpired later.now = false) :
    Stays place row (clients.step (.work writer)) after later.now := by
  obtain ⟨made, stored⟩ := written opened writes
  refine ⟨stored ▸ opened, stored ▸ Store.row?_insert_self .., ?_, followed.performed.1, valid⟩
  intro exchange member
  obtain ⟨⟨index, said⟩, present, rfl⟩ := List.mem_map.mp member
  have whole := (reached.step (.work writer)).trans followed
  obtain ⟨client, follows, mine⟩ := whole.client fresh (List.mem_append_right _ present)
  cases said with
  | insert other row reply =>
    rintro rfl
    exact unwritten index row reply present
  | eraseExpired moment reply => exact Client.not_eraseExpired follows moment reply mine
  | _ => trivial

/-- Only a read that saw an expired row before the write drops the row. -/
private theorem dropped_by_stale (fresh : start.calls = [])
    (stays : Stays place row (clients.step (.work writer)) after later.now)
    (opened : clients.store.isOpen = true) (reached : start.Reaches before clients)
    (writes : clients.calls[writer]? =
      some (.putter encode place value lifetime (.insert place row next)))
    (followed : (clients.step (.work writer)).Reaches after later) {index : Nat}
    {reply : Except CacheError Unit} (erased : (index, .erase place reply) ∈ after) :
    ∃ old, (index, .select place (.ok (some old))) ∈ before := by
  have whole := (reached.step (.work writer)).trans followed
  rw [(written opened writes).1] at whole
  obtain ⟨client, follows, mine⟩ := whole.client fresh (List.mem_append_right _ erased)
  obtain ⟨old, moment, due, seen, timed⟩ := client.erase follows mine
  have seen := mem_partOf_iff.mp seen
  simp only [Option.toList_some, List.mem_append, List.mem_singleton] at seen
  rcases seen with (early | same) | late
  · exact ⟨old, early⟩
  · cases same
  · -- Whoever looks after the write sees the new row, and its time is not up.
    rw [stays.select_eq late] at due
    have expired := Row.isExpired_mono (whole.clock_le (mem_partOf_iff.mp timed)) due
    rw [stays.valid] at expired
    cases expired

/-- A read that starts after the write finds what was written, unless it finds no row. -/
private theorem outcome {reader : Nat} {β : Type} {decode : Decoder β} {found : Except CacheError β}
    (fresh : start.calls = [])
    (stays : Stays place row (clients.step (.work writer)) after later.now)
    (reached : start.Reaches before clients)
    (followed : (clients.step (.work writer)).Reaches after later)
    (writes : writer < clients.calls.length) (starts : clients.calls.length ≤ reader)
    (reads : later.calls[reader]? = some (.getter decode place (.done found))) :
    (found = .error .miss ∧ (reader, .select place (.ok none)) ∈ after) ∨
      (found = spelled decode row.text ∧ (reader, .select place (.ok none)) ∉ after) := by
  have whole := (reached.step (.work writer)).trans followed
  have behind {exchange : Exchange} (said : (reader, exchange) ∈
      before ++ (clients.exchange? (.work writer)).toList ++ after) :
      (reader, exchange) ∈ after := by
    rcases List.mem_append.mp said with early | late
    · have other : reader ≠ writer := by omega
      rcases List.mem_append.mp early with early | own
      · exact absurd ((reached.accounts fresh).bounded _ early) (Nat.not_lt.mpr starts)
      · obtain ⟨exchange, _, same⟩ := Option.map_eq_some_iff.mp (Option.mem_toList.mp own)
        exact absurd (congrArg Prod.fst same).symm other
    · exact late
  have part : Reads decode place _ found :=
    .of_leads ((whole.accounts fresh).follows reader _ reads)
  have said {exchange : Exchange} (member : exchange ∈ partOf reader
      (before ++ (clients.exchange? (.work writer)).toList ++ after)) :
      (reader, exchange) ∈ after :=
    behind (mem_partOf_iff.mp member)
  have silent : (reader, .select place (.ok none)) ∈ after →
      .select place (.ok none) ∈ partOf reader
        (before ++ (clients.exchange? (.work writer)).toList ++ after) :=
    fun member => mem_partOf_iff.mpr (List.mem_append_right _ member)
  have past {moment : Nat} (member : (reader, .clock moment) ∈ after) : moment ≤ later.now :=
    whole.clock_le (List.mem_append_right _ member)
  generalize partOf reader _ = log at part said silent
  -- A read has four ways to go. Two are ruled out by what it sees in a place where the row stays.
  cases part with
  | @failed error =>
    obtain ⟨earlier, rest, split⟩ := List.append_of_mem (said (List.mem_singleton.mpr rfl))
    cases stays.select split
  | absent => exact .inl ⟨rfl, said (List.mem_singleton.mpr rfl)⟩
  | @expired seen moment dropped due =>
    obtain rfl : seen = row := stays.select_eq (said (by simp))
    have expired := Row.isExpired_mono (past (said (by simp))) due
    rw [stays.valid] at expired
    cases expired
  | @inForce seen moment valid =>
    obtain rfl : seen = row := stays.select_eq (said (by simp))
    exact .inr ⟨rfl, fun absent => by simpa using silent absent⟩

/-- What becomes of a write that is done, until another one to its place or the end of its time: a
read that starts afterwards finds it, except if a read that had seen an expired row before the
write has dropped the row by the time of the look. In that case, and only then, it finds nothing. -/
theorem miss_iff_dropped {reader : Nat} {β : Type} {decode : Decoder β}
    {found : Except CacheError β} (fresh : start.calls = []) (opened : start.store.isOpen = true)
    (reached : start.Reaches before clients)
    (writes : clients.calls[writer]? =
      some (.putter encode place value lifetime (.insert place row next)))
    (followed : (clients.step (.work writer)).Reaches after later)
    (unwritten : ∀ index row reply, (index, .insert place row reply) ∉ after)
    (valid : row.isExpired later.now = false) (starts : clients.calls.length ≤ reader)
    (reads : later.calls[reader]? = some (.getter decode place (.done found))) :
    encode value = some row.text ∧
      (∃ moment, moment ≤ clients.now ∧ row.deadline = lifetime.deadline? moment) ∧
      (found = .error .miss ∨ found = spelled decode row.text) ∧
      (found = .error .miss ↔ ∃ earlier rest reply,
        after = earlier ++ (reader, .select place reply) :: rest ∧ ∃ stale old dropped,
          (stale, .select place (.ok (some old))) ∈ before ∧
            (stale, .erase place dropped) ∈ earlier) := by
  have opened : clients.store.isOpen = true := by
    rw [reached.performed.2, Exchange.isOpen_after, opened]
  have stays := stays_of_written fresh opened reached writes followed unwritten valid
  have outcome := outcome fresh stays reached followed (List.getElem?_eq_some_iff.mp writes).1
    starts reads
  have ⟨encoded, dated⟩ : encode value = some row.text ∧
      ∃ moment, moment ≤ clients.now ∧ row.deadline = lifetime.deadline? moment := by
    have part := WritesSoFar.of_leads ((reached.accounts fresh).follows writer _ writes)
    generalize told : partOf writer before = log at part
    cases part with
    | timed encoded moment =>
      have looked : .clock moment ∈ partOf writer before := by simp [told]
      exact ⟨encoded, moment, reached.clock_le (mem_partOf_iff.mp looked), rfl⟩
  refine ⟨encoded, dated, ?_, ?_, ?_⟩
  · exact outcome.imp And.left And.left
  · intro missed
    have absent : (reader, .select place (.ok none)) ∈ after := by
      rcases outcome with ⟨_, absent⟩ | ⟨found, _⟩
      · exact absent
      · exact absurd (found.symm.trans missed) (spelled_ne_miss decode row.text)
    obtain ⟨earlier, rest, split⟩ := List.append_of_mem absent
    have sees := stays.select split
    split at sees
    · rename_i dropped
      obtain ⟨exchange, member, erases⟩ := List.any_eq_true.mp dropped
      obtain ⟨reply, rfl⟩ := Exchange.erases_iff.mp erases
      obtain ⟨⟨stale, _⟩, present, rfl⟩ := List.mem_map.mp member
      obtain ⟨old, seen⟩ := dropped_by_stale fresh stays opened reached writes followed
        (split ▸ List.mem_append_left _ present)
      exact ⟨earlier, rest, _, split, stale, old, reply, seen, present⟩
    · cases sees
  · rintro ⟨earlier, rest, reply, split, stale, old, dropped, _, erased⟩
    have gone : (earlier.map Prod.snd).any (Exchange.erases place) = true :=
      List.any_eq_true.mpr ⟨_, List.mem_map_of_mem erased, Exchange.erases_iff.mpr ⟨dropped, rfl⟩⟩
    have sees := stays.select split
    rw [gone, if_pos rfl] at sees
    rcases outcome with ⟨missed, _⟩ | ⟨_, present⟩
    · exact missed
    · exact absurd (by simp [split, sees]) present

/-- The place of the run below. -/
def contested : Place := ⟨"hosts", "web"⟩

/-- A store with a row of which the time is up. -/
def outdated : Clients :=
  { now := 50, store := { rows := [(contested, ⟨"false", some 10⟩)] } }

/-- The text of a truth value. -/
def flagText (flag : Bool) : Option String := some (if flag then "true" else "false")

/-- A read sees the expired row, a write puts a new one there, the first read drops it, and another
read finds nothing. -/
private theorem outdated_reaches : ∃ before clients next, outdated.Reaches before clients ∧
    clients.calls[1]? =
      some (.putter flagText contested true ⟨0⟩ (.insert contested ⟨"true", none⟩ next)) ∧
    clients.calls.length = 2 ∧ ∃ after later, (clients.step (.work 1)).Reaches after later ∧
      (∀ index row reply, (index, .insert contested row reply) ∉ after) ∧
      later.calls[2]? = some (.getter Json.Decoder.bool contested (.done (.error .miss))) := by
  have looked : outdated.Reaches _ _ :=
    ((Reaches.start.step (.get Json.Decoder.bool contested)).step (.work 0)).step (.work 0)
  have written := (looked.step (.put flagText contested true ⟨0⟩)).step (.work 1)
  refine ⟨_, _, _, written, rfl, rfl, ?_⟩
  refine ⟨[(0, .erase contested (.ok ())), (2, .select contested (.ok none))], _,
    ((Reaches.start.step (.work 0)).step (.get Json.Decoder.bool contested)).step (.work 2),
    ?_, rfl⟩
  simp

/-- A write can be lost before its time is up. -/
theorem write_lost : ¬ ∀ (start clients later : Clients) (before after : List (Nat × Exchange))
    (writer reader : Nat) (value : Bool) (lifetime : Lifetime) (place : Place) (row : Row)
    (next : Except CacheError Unit → Access (Except CacheError Unit))
    (found : Except CacheError Bool),
    start.calls = [] → start.store.isOpen = true → start.Reaches before clients →
    clients.calls[writer]? = some (.putter flagText place value lifetime (.insert place row next)) →
    (clients.step (.work writer)).Reaches after later →
    (∀ index row reply, (index, .insert place row reply) ∉ after) →
    row.isExpired later.now = false → clients.calls.length ≤ reader →
    later.calls[reader]? = some (.getter Json.Decoder.bool place (.done found)) →
    found = spelled Json.Decoder.bool row.text := by
  intro kept
  obtain ⟨before, clients, next, reached, writes, length, after, later, followed, unwritten,
    missed⟩ := outdated_reaches
  have found := kept outdated clients later before after 1 2 true ⟨0⟩ contested _ next _ rfl rfl
    reached writes followed unwritten rfl (Nat.le_of_eq length) missed
  exact spelled_ne_miss _ _ found.symm

theorem miss_iff_dropped_outdated : ∃ before clients next after later,
    outdated.calls = [] ∧ outdated.store.isOpen = true ∧ outdated.Reaches before clients ∧
    clients.calls[1]? =
      some (.putter flagText contested true ⟨0⟩ (.insert contested ⟨"true", none⟩ next)) ∧
    (clients.step (.work 1)).Reaches after later ∧
    (∀ index row reply, (index, .insert contested row reply) ∉ after) ∧
    Row.isExpired ⟨"true", none⟩ later.now = false ∧ clients.calls.length ≤ 2 ∧
    later.calls[2]? = some (.getter Json.Decoder.bool contested (.done (.error .miss))) ∧
    ∃ earlier rest reply, after = earlier ++ (2, .select contested reply) :: rest ∧
      ∃ stale old dropped, (stale, .select contested (.ok (some old))) ∈ before ∧
        (stale, .erase contested dropped) ∈ earlier := by
  obtain ⟨before, clients, next, reached, writes, length, after, later, followed, unwritten,
    missed⟩ := outdated_reaches
  have least : clients.calls.length ≤ 2 := Nat.le_of_eq length
  exact ⟨before, clients, next, after, later, rfl, rfl, reached, writes, followed, unwritten, rfl,
    least, missed, (miss_iff_dropped rfl rfl reached writes followed unwritten rfl least
      missed).2.2.2.mp rfl⟩

end Clients

end FleetSearch.Cache
