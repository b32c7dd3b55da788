import FleetSearch.Inventory.Collector

/-! Collectors behind locks, used through several handles side by side. A clone of a handle leads to
the same collector. Whoever has its lock works in small steps: instances come in one by one, and
they are read before the collector is emptied. Between these steps anything can happen through other
handles, but nobody else comes in, so that at every moment what was taken and what is held are
together what was added, in the order of the effects. -/

namespace FleetSearch.Inventory.Sharing

/-- What is asked of a collector. -/
inductive Ask where
  | add (items : Collection)
  | take
  | size

/-- What came of it. -/
inductive Effect where
  | added (items : Collection)
  | taken (items : Collection)
  | counted (number : Nat)

namespace Effect

def ask : Effect → Ask
  | .added items => .add items
  | .taken _ => .take
  | .counted _ => .size

def additions : Effect → Collection
  | .added items => items
  | _ => []

def removals : Effect → Collection
  | .taken items => items
  | _ => []

end Effect

/-- What has the lock, with what remains of it. -/
inductive Turn where
  | adding (moved left : Collection)
  | taking
  | clearing (found : Collection)
  | counting
  | leaving (effect : Effect)

def Ask.turn : Ask → Turn
  | .add items => .adding [] items
  | .take => .taking
  | .size => .counting

namespace Turn

def ask : Turn → Ask
  | .adding moved left => .add (moved ++ left)
  | .taking | .clearing _ => .take
  | .counting => .size
  | .leaving effect => effect.ask

/-- What has come in so far of an addition that goes on. -/
def moved : Turn → Collection
  | .adding moved _ => moved
  | _ => []

def effects : Turn → List Effect
  | .leaving effect => [effect]
  | _ => []

/-- One step with the lock, with its effect if it is the decisive one. -/
inductive Step : Turn → Collector → List Effect → Turn → Collector → Prop where
  | append (collector : Collector) (moved : Collection) (item : Instance) (left : Collection) :
      Step (.adding moved (item :: left)) collector [] (.adding (moved ++ [item]) left)
        (collector.add [item])
  | appended {collector : Collector} (moved : Collection) :
      Step (.adding moved []) collector [.added moved] (.leaving (.added moved)) collector
  | read {collector : Collector} :
      Step .taking collector [] (.clearing collector.take.1) collector
  | clear {collector : Collector} (found : Collection) :
      Step (.clearing found) collector [.taken found] (.leaving (.taken found)) collector.take.2
  | count {collector : Collector} :
      Step .counting collector [.counted collector.size] (.leaving (.counted collector.size))
        collector

end Turn

/-- A collector, and the call that has its lock. -/
structure Cell where
  collector : Collector := {}
  inside : Option (Nat × Turn) := none

def Cell.moved (cell : Cell) : Collection :=
  match cell.inside with
  | some (_, turn) => turn.moved
  | none => []

inductive Progress where
  | waiting
  | inside
  | over (effect : Effect)

/-- A call for the collector in a cell. -/
structure Call where
  cell : Nat
  ask : Ask
  progress : Progress := .waiting

/-- The collectors, the cells that the handles lead to, and the calls in the order in which they
began. -/
structure State where
  cells : List Cell := []
  handles : List Nat := []
  calls : List Call := []

/-- An effect that a call had on a cell. -/
structure Entry where
  call : Nat
  cell : Nat
  effect : Effect

namespace State

/-- What can happen next, with the effects it has. -/
inductive Step (state : State) : List Entry → State → Prop where
  | create :
      Step state [] { state with
        cells := state.cells ++ [{}]
        handles := state.handles ++ [state.cells.length] }
  | clone (handle : Nat) {cell : Nat} (leads : state.handles[handle]? = some cell) :
      Step state [] { state with handles := state.handles ++ [cell] }
  | call (handle : Nat) (ask : Ask) {cell : Nat} (leads : state.handles[handle]? = some cell) :
      Step state [] { state with calls := state.calls ++ [{ cell, ask }] }
  /-- A call gets the lock, which nobody has. -/
  | enter (index : Nat) {cell : Nat} {ask : Ask} {collector : Collector}
      (waits : state.calls[index]? = some ⟨cell, ask, .waiting⟩)
      (free : state.cells[cell]? = some ⟨collector, none⟩) :
      Step state [] { state with
        cells := state.cells.set cell ⟨collector, some (index, ask.turn)⟩
        calls := state.calls.set index ⟨cell, ask, .inside⟩ }
  | work (cell : Nat) {index : Nat} {turn next : Turn} {collector after : Collector}
      {effects : List Effect}
      (busy : state.cells[cell]? = some ⟨collector, some (index, turn)⟩)
      (works : turn.Step collector effects next after) :
      Step state (effects.map (Entry.mk index cell)) { state with
        cells := state.cells.set cell ⟨after, some (index, next)⟩ }
  /-- A call gives the lock back and is over. -/
  | leave (cell index : Nat) {collector : Collector} {effect : Effect}
      (busy : state.cells[cell]? = some ⟨collector, some (index, .leaving effect)⟩) :
      Step state [] { state with
        cells := state.cells.set cell ⟨collector, none⟩
        calls := state.calls.modify index fun call => { call with progress := .over effect } }

/-- What can be reached from no collectors at all, with all effects in their order. -/
inductive Reaches : List Entry → State → Prop where
  | start : Reaches [] {}
  | step {log entries : List Entry} {state next : State} (before : Reaches log state)
      (happens : state.Step entries next) : Reaches (log ++ entries) next

end State

variable {log entries : List Entry} {cell index : Nat}

def addedTo (cell : Nat) (log : List Entry) : Collection :=
  (log.filter fun entry => entry.cell = cell).flatMap fun entry => entry.effect.additions

def takenFrom (cell : Nat) (log : List Entry) : Collection :=
  (log.filter fun entry => entry.cell = cell).flatMap fun entry => entry.effect.removals

/-- The effects of one call. -/
def effectsOf (index : Nat) (log : List Entry) : List Entry :=
  log.filter fun entry => entry.call = index

/-- Whether an effect is what it should be after those before it: all is taken that was added and
not taken before, and as much is counted. -/
def Entry.Fits (entry : Entry) (before : List Entry) : Prop :=
  match entry.effect with
  | .added _ => True
  | .taken items => takenFrom entry.cell before ++ items = addedTo entry.cell before
  | .counted number =>
    (takenFrom entry.cell before).length + number = (addedTo entry.cell before).length

section Logs

variable {effects : List Effect}

theorem addedTo_append (cell : Nat) (log entries : List Entry) :
    addedTo cell (log ++ entries) = addedTo cell log ++ addedTo cell entries := by
  simp [addedTo]

theorem takenFrom_append (cell : Nat) (log entries : List Entry) :
    takenFrom cell (log ++ entries) = takenFrom cell log ++ takenFrom cell entries := by
  simp [takenFrom]

theorem effectsOf_append (index : Nat) (log entries : List Entry) :
    effectsOf index (log ++ entries) = effectsOf index log ++ effectsOf index entries := by
  simp [effectsOf]

theorem filter_map_cell (index cell : Nat) (effects : List Effect) :
    ((effects.map (Entry.mk index cell)).filter fun entry => entry.cell = cell) =
      effects.map (Entry.mk index cell) := by
  refine List.filter_eq_self.mpr fun entry member => ?_
  obtain ⟨_, _, rfl⟩ := List.mem_map.mp member
  exact decide_eq_true rfl

theorem addedTo_map (index cell : Nat) (effects : List Effect) :
    addedTo cell (effects.map (Entry.mk index cell)) = effects.flatMap Effect.additions := by
  rw [addedTo, filter_map_cell, List.flatMap_map]

theorem takenFrom_map (index cell : Nat) (effects : List Effect) :
    takenFrom cell (effects.map (Entry.mk index cell)) = effects.flatMap Effect.removals := by
  rw [takenFrom, filter_map_cell, List.flatMap_map]

theorem effectsOf_map (index cell : Nat) (effects : List Effect) :
    effectsOf index (effects.map (Entry.mk index cell)) = effects.map (Entry.mk index cell) := by
  simp [effectsOf]

/-- Nothing was added to a cell or taken from it where no entry is for it. -/
theorem untouched (elsewhere : ∀ entry ∈ log, entry.cell ≠ cell) :
    addedTo cell log = [] ∧ takenFrom cell log = [] := by
  have none : (log.filter fun entry => entry.cell = cell) = [] :=
    List.filter_eq_nil_iff.mpr fun entry member => by simpa using elsewhere entry member
  simp [addedTo, takenFrom, none]

theorem effectsOf_eq_nil (others : ∀ entry ∈ log, entry.call ≠ index) : effectsOf index log = [] :=
  List.filter_eq_nil_iff.mpr fun entry member => by simpa using others entry member

theorem untouched_map {other : Nat} (ne : cell ≠ other) (index : Nat) (effects : List Effect) :
    addedTo other (effects.map (Entry.mk index cell)) = [] ∧
      takenFrom other (effects.map (Entry.mk index cell)) = [] := by
  refine untouched fun entry member => ?_
  obtain ⟨_, _, rfl⟩ := List.mem_map.mp member
  exact ne

theorem effectsOf_map_of_ne {other : Nat} (ne : index ≠ other) (cell : Nat)
    (effects : List Effect) : effectsOf other (effects.map (Entry.mk index cell)) = [] := by
  refine effectsOf_eq_nil fun entry member => ?_
  obtain ⟨_, _, rfl⟩ := List.mem_map.mp member
  exact ne

end Logs

/-- Whether all that was taken from a cell and all that it holds is what was added to it, up to an
addition that goes on. -/
structure Cell.Balanced (kept : Cell) (taken added : Collection) : Prop where
  total : taken ++ kept.collector.held = added ++ kept.moved
  /-- What was read is still there. -/
  found : ∀ index items, kept.inside = some (index, .clearing items) → items = kept.collector.held

section Steps

variable {turn next : Turn} {collector after : Collector} {effects : List Effect}
  {taken added : Collection}

theorem Ask.ask_turn (ask : Ask) : ask.turn.ask = ask := by
  cases ask <;> rfl

theorem Ask.effects_turn (ask : Ask) : ask.turn.effects = [] := by
  cases ask <;> rfl

theorem Turn.Step.ask_eq (works : turn.Step collector effects next after) :
    next.ask = turn.ask := by
  cases works with
  | append _ moved item left =>
    rw [Turn.ask, Turn.ask, List.append_assoc, List.singleton_append]
  | appended moved => simp [Turn.ask, Effect.ask]
  | read => rfl
  | clear found => rfl
  | count => rfl

theorem Turn.Step.effects_eq (works : turn.Step collector effects next after) :
    next.effects = turn.effects ++ effects := by
  cases works <;> rfl

theorem Turn.Step.balanced (works : turn.Step collector effects next after)
    (balanced : Cell.Balanced ⟨collector, some (index, turn)⟩ taken added) :
    Cell.Balanced ⟨after, some (index, next)⟩ (taken ++ effects.flatMap Effect.removals)
      (added ++ effects.flatMap Effect.additions) := by
  obtain ⟨total, read⟩ := balanced
  cases works with
  | append _ moved item left =>
    refine ⟨?_, fun _ _ same => by cases same⟩
    have one : taken ++ collector.held ++ [item] = added ++ moved ++ [item] :=
      congrArg (· ++ [item]) total
    simpa [Collector.add, Cell.moved, Turn.moved] using one
  | appended moved =>
    refine ⟨?_, fun _ _ same => by cases same⟩
    simpa [Cell.moved, Turn.moved, Effect.removals, Effect.additions] using total
  | read =>
    refine ⟨by simpa [Cell.moved, Turn.moved] using total, ?_⟩
    intro _ items same
    cases same
    rfl
  | clear found =>
    have same : found = collector.held := read index found rfl
    subst same
    refine ⟨?_, fun _ _ same => by cases same⟩
    simpa [Cell.moved, Turn.moved, Effect.removals, Effect.additions, Collector.take] using total
  | count =>
    refine ⟨?_, fun _ _ same => by cases same⟩
    simpa [Cell.moved, Turn.moved, Effect.removals, Effect.additions] using total

/-- An effect on a cell that is balanced is what it should be. -/
theorem Turn.Step.fits (works : turn.Step collector effects next after)
    (balanced : Cell.Balanced ⟨collector, some (index, turn)⟩ (takenFrom cell log)
      (addedTo cell log)) :
    ∀ effect ∈ effects, Entry.Fits ⟨index, cell, effect⟩ log := by
  obtain ⟨total, read⟩ := balanced
  intro effect member
  cases works with
  | append | read => cases member
  | appended moved =>
    rw [List.mem_singleton.mp member]
    trivial
  | clear found =>
    have same : found = collector.held := read index found rfl
    subst same
    rw [List.mem_singleton.mp member]
    simpa [Entry.Fits, Cell.moved, Turn.moved] using total
  | count =>
    rw [List.mem_singleton.mp member]
    simpa [Entry.Fits, Cell.moved, Turn.moved, Collector.size] using congrArg List.length total

theorem Turn.Step.effects_cases (works : turn.Step collector effects next after) :
    effects = [] ∨ ∃ effect, effects = [effect] := by
  cases works with
  | append | read => exact .inl rfl
  | appended | clear | count => exact .inr ⟨_, rfl⟩

end Steps

theorem getElem?_snoc_cases {α : Type} {items : List α} {last item : α} {place : Nat}
    (found : (items ++ [last])[place]? = some item) :
    items[place]? = some item ∨ place = items.length ∧ item = last := by
  rcases Nat.lt_or_ge place items.length with former | later
  · rw [List.getElem?_append_left former] at found
    exact .inl found
  · rw [List.getElem?_append_right later, List.getElem?_singleton] at found
    split at found
    · rename_i first
      exact .inr ⟨Nat.le_antisymm (Nat.sub_eq_zero_iff_le.mp first) later,
        (Option.some.inj found).symm⟩
    · cases found

theorem getElem?_set_cases {α : Type} {items : List α} {item found : α} {place other : Nat}
    (stands : (items.set place item)[other]? = some found) :
    place = other ∧ item = found ∨ place ≠ other ∧ items[other]? = some found := by
  rw [List.getElem?_set] at stands
  split at stands
  · rename_i same
    split at stands
    · exact .inl ⟨same, Option.some.inj stands⟩
    · cases stands
  · rename_i ne
    exact .inr ⟨ne, stands⟩

/-- Whether a call had its effect and no other once it is over, and none while it waits. -/
def Call.Accounted (call : Call) (index : Nat) (log : List Entry) : Prop :=
  match call.progress with
  | .waiting => effectsOf index log = []
  | .inside => True
  | .over effect => effectsOf index log = [⟨index, call.cell, effect⟩] ∧ effect.ask = call.ask

namespace State

/-- What holds in all states that can be reached. -/
structure Sound (state : State) (log : List Entry) : Prop where
  handled : ∀ cell ∈ state.handles, cell < state.cells.length
  known : ∀ entry ∈ log, entry.call < state.calls.length ∧ entry.cell < state.cells.length
  balanced : ∀ cell (kept : Cell), state.cells[cell]? = some kept →
    kept.Balanced (takenFrom cell log) (addedTo cell log)
  /-- A call that has the lock of a cell is one for this cell, and has it nowhere else. -/
  entered : ∀ cell collector index turn, state.cells[cell]? = some ⟨collector, some (index, turn)⟩ →
    state.calls[index]? = some ⟨cell, turn.ask, .inside⟩ ∧
      effectsOf index log = turn.effects.map (Entry.mk index cell)
  accounted : ∀ index (call : Call), state.calls[index]? = some call → call.Accounted index log
  fits : ∀ before entry after, log = before ++ entry :: after → entry.Fits before

variable {state next : State}

theorem sound_empty : Sound {} [] := by
  refine ⟨?_, ?_, ?_, ?_, ?_, ?_⟩ <;> simp

namespace Sound

variable {ask : Ask} {collector : Collector}

theorem create (sound : state.Sound log) :
    Sound { state with
      cells := state.cells ++ [{}]
      handles := state.handles ++ [state.cells.length] } log := by
  refine ⟨?_, ?_, ?_, ?_, sound.accounted, sound.fits⟩
  · intro cell member
    rw [List.length_append]
    rcases List.mem_append.mp member with former | added
    · exact Nat.lt_add_right 1 (sound.handled cell former)
    · rw [List.mem_singleton.mp added]
      exact Nat.lt_succ_self _
  · intro entry member
    obtain ⟨begun, place⟩ := sound.known entry member
    refine ⟨begun, ?_⟩
    rw [List.length_append]
    exact Nat.lt_add_right 1 place
  · intro cell kept found
    rcases getElem?_snoc_cases found with former | ⟨rfl, rfl⟩
    · exact sound.balanced cell kept former
    · have elsewhere : ∀ entry ∈ log, entry.cell ≠ state.cells.length :=
        fun entry member => Nat.ne_of_lt (sound.known entry member).2
      obtain ⟨noneAdded, noneTaken⟩ := untouched elsewhere
      rw [noneAdded, noneTaken]
      exact ⟨rfl, fun _ _ same => by cases same⟩
  · intro cell collector index turn found
    rcases getElem?_snoc_cases found with former | ⟨_, same⟩
    · exact sound.entered cell collector index turn former
    · cases same

theorem clone {handle : Nat} (sound : state.Sound log)
    (leads : state.handles[handle]? = some cell) :
    Sound { state with handles := state.handles ++ [cell] } log := by
  refine { sound with handled := ?_ }
  intro other member
  rcases List.mem_append.mp member with former | added
  · exact sound.handled other former
  · rw [List.mem_singleton.mp added]
    exact sound.handled cell (List.mem_of_getElem? leads)

theorem call (sound : state.Sound log) (cell : Nat) (ask : Ask) :
    Sound { state with calls := state.calls ++ [{ cell, ask }] } log := by
  refine { sound with known := ?_, entered := ?_, accounted := ?_ }
  · intro entry member
    obtain ⟨call, place⟩ := sound.known entry member
    refine ⟨?_, place⟩
    rw [List.length_append]
    exact Nat.lt_add_right 1 call
  · intro other collector index turn found
    obtain ⟨begun, effects⟩ := sound.entered other collector index turn found
    have inRange := (List.getElem?_eq_some_iff.mp begun).1
    exact ⟨(List.getElem?_append_left inRange).trans begun, effects⟩
  · intro index call found
    rcases getElem?_snoc_cases found with former | ⟨rfl, rfl⟩
    · exact sound.accounted index call former
    · exact effectsOf_eq_nil fun entry member => Nat.ne_of_lt (sound.known entry member).1

theorem inside_ne {cell other index second : Nat} {collector further : Collector}
    {turn rest : Turn} (sound : state.Sound log) (different : cell ≠ other)
    (first : state.cells[cell]? = some ⟨collector, some (index, turn)⟩)
    (inOther : state.cells[other]? = some ⟨further, some (second, rest)⟩) : second ≠ index := by
  rintro rfl
  have here := (sound.entered cell collector second turn first).1
  have there := (sound.entered other further second rest inOther).1
  rw [here] at there
  exact different (congrArg Call.cell (Option.some.inj there))

theorem enter (sound : state.Sound log)
    (waits : state.calls[index]? = some ⟨cell, ask, .waiting⟩)
    (free : state.cells[cell]? = some ⟨collector, none⟩) :
    Sound { state with
      cells := state.cells.set cell ⟨collector, some (index, ask.turn)⟩
      calls := state.calls.set index ⟨cell, ask, .inside⟩ } log := by
  have begun := (List.getElem?_eq_some_iff.mp waits).1
  refine ⟨?_, ?_, ?_, ?_, ?_, sound.fits⟩
  · simpa using sound.handled
  · simpa using sound.known
  · intro other kept found
    rcases getElem?_set_cases found with ⟨rfl, rfl⟩ | ⟨_, former⟩
    · obtain ⟨total, _⟩ := sound.balanced cell _ free
      refine ⟨?_, ?_⟩
      · cases ask <;> simpa [Cell.moved, Ask.turn, Turn.moved] using total
      · intro _ _ same
        cases ask <;> simp [Ask.turn] at same
    · exact sound.balanced other kept former
  · intro other further second turn found
    rcases getElem?_set_cases found with ⟨rfl, same⟩ | ⟨_, former⟩
    · cases same
      refine ⟨?_, ?_⟩
      · rw [List.getElem?_set_self begun, Ask.ask_turn]
      · rw [Ask.effects_turn]
        exact sound.accounted index _ waits
    · obtain ⟨inside, effects⟩ := sound.entered other further second turn former
      have ne : index ≠ second := by
        rintro rfl
        rw [waits] at inside
        cases inside
      exact ⟨(List.getElem?_set_ne ne).trans inside, effects⟩
  · intro second call found
    rcases getElem?_set_cases found with ⟨rfl, rfl⟩ | ⟨_, former⟩
    · trivial
    · exact sound.accounted second call former

theorem work {turn rest : Turn} {after : Collector} {effects : List Effect}
    (sound : state.Sound log)
    (busy : state.cells[cell]? = some ⟨collector, some (index, turn)⟩)
    (works : turn.Step collector effects rest after) :
    Sound { state with cells := state.cells.set cell ⟨after, some (index, rest)⟩ }
      (log ++ effects.map (Entry.mk index cell)) := by
  have present := (List.getElem?_eq_some_iff.mp busy).1
  obtain ⟨begun, former⟩ := sound.entered cell collector index turn busy
  have balanced := sound.balanced cell _ busy
  refine ⟨?_, ?_, ?_, ?_, ?_, ?_⟩
  · simpa using sound.handled
  · intro entry member
    rw [List.length_set]
    rcases List.mem_append.mp member with old | fresh
    · exact sound.known entry old
    · obtain ⟨_, _, rfl⟩ := List.mem_map.mp fresh
      exact ⟨(List.getElem?_eq_some_iff.mp begun).1, present⟩
  · intro other kept found
    rw [takenFrom_append, addedTo_append]
    rcases getElem?_set_cases found with ⟨rfl, rfl⟩ | ⟨ne, unchanged⟩
    · rw [takenFrom_map, addedTo_map]
      exact works.balanced balanced
    · obtain ⟨noneAdded, noneTaken⟩ := untouched_map ne index effects
      rw [noneAdded, noneTaken, List.append_nil, List.append_nil]
      exact sound.balanced other kept unchanged
  · intro other further second turn found
    rw [effectsOf_append]
    rcases getElem?_set_cases found with ⟨rfl, same⟩ | ⟨ne, unchanged⟩
    · cases same
      rw [works.ask_eq, works.effects_eq, former, effectsOf_map, List.map_append]
      exact ⟨begun, rfl⟩
    · obtain ⟨inside, effects⟩ := sound.entered other further second turn unchanged
      have others := sound.inside_ne ne busy unchanged
      rw [effectsOf_map_of_ne (Ne.symm others), List.append_nil]
      exact ⟨inside, effects⟩
  · intro second call found
    unfold Call.Accounted
    rw [effectsOf_append]
    by_cases same : index = second
    · subst same
      obtain rfl := Option.some.inj (begun.symm.trans found)
      trivial
    · rw [effectsOf_map_of_ne same, List.append_nil]
      exact sound.accounted second call found
  · intro before entry behind split
    rcases works.effects_cases with rfl | ⟨effect, rfl⟩
    · rw [List.map_nil, List.append_nil] at split
      exact sound.fits before entry behind split
    · have fits := works.fits balanced effect (List.mem_singleton_self effect)
      rcases List.eq_nil_or_concat behind with rfl | ⟨front, last, rfl⟩
      · obtain ⟨rfl, same⟩ := List.append_inj' split rfl
        obtain rfl := List.singleton_inj.mp same
        exact fits
      · rw [List.concat_eq_append, ← List.cons_append, ← List.append_assoc] at split
        exact sound.fits before entry front (List.append_inj' split rfl).1

theorem leave {effect : Effect} (sound : state.Sound log)
    (busy : state.cells[cell]? = some ⟨collector, some (index, .leaving effect)⟩) :
    Sound { state with
      cells := state.cells.set cell ⟨collector, none⟩
      calls := state.calls.modify index fun call =>
        { call with progress := .over effect } } log := by
  obtain ⟨begun, effects⟩ := sound.entered cell collector index _ busy
  refine ⟨?_, ?_, ?_, ?_, ?_, sound.fits⟩
  · simpa using sound.handled
  · simpa using sound.known
  · intro other kept found
    rcases getElem?_set_cases found with ⟨rfl, rfl⟩ | ⟨_, former⟩
    · exact ⟨(sound.balanced cell _ busy).total, fun _ _ same => by cases same⟩
    · exact sound.balanced other kept former
  · intro other further second turn found
    rcases getElem?_set_cases found with ⟨_, same⟩ | ⟨ne, former⟩
    · cases same
    · have others := sound.inside_ne ne busy former
      obtain ⟨inside, effects⟩ := sound.entered other further second turn former
      exact ⟨(List.getElem?_modify_ne _ _ (Ne.symm others)).trans inside, effects⟩
  · intro second call found
    by_cases same : index = second
    · subst same
      rw [List.getElem?_modify_eq, begun] at found
      obtain rfl := Option.some.inj found
      exact ⟨effects, rfl⟩
    · rw [List.getElem?_modify_ne _ _ same] at found
      exact sound.accounted second call found

/-- One step keeps all of this. -/
theorem step {entries : List Entry} (sound : state.Sound log) (happens : state.Step entries next) :
    next.Sound (log ++ entries) := by
  cases happens with
  | create => simpa using sound.create
  | clone handle leads => simpa using sound.clone leads
  | call handle ask leads => simpa using sound.call _ ask
  | enter index waits free => simpa using sound.enter waits free
  | work cell busy works => exact sound.work busy works
  | leave cell index busy => simpa using sound.leave busy

end Sound

theorem Reaches.sound (reached : Reaches log state) : state.Sound log := by
  induction reached with
  | start => exact sound_empty
  | step _ happens sound => exact sound.step happens

/-- Through whatever handles and in whatever order calls come in: behind every handle, what was
taken so far and what is held are what was added so far, in the order of the effects, and with it
what has come in of an addition that has the lock and goes on. Every take gets all that was added
before and not taken, from whole additions, and every count is the number of these. A call that is
over had its effect once, and one that waits has had none. -/
theorem Reaches.conserved (reached : Reaches log state) :
    (∀ handle cell : Nat, state.handles[handle]? = some cell →
      ∃ kept, state.cells[cell]? = some kept ∧
        takenFrom cell log ++ kept.collector.held = addedTo cell log ++ kept.moved ∧
        (kept.inside = none → takenFrom cell log ++ kept.collector.held = addedTo cell log ∧
          (takenFrom cell log).length + kept.collector.size = (addedTo cell log).length)) ∧
    (∀ before entry after, log = before ++ entry :: after → entry.Fits before) ∧
    ∀ index (call : Call), state.calls[index]? = some call → call.Accounted index log := by
  have sound := reached.sound
  refine ⟨?_, sound.fits, sound.accounted⟩
  intro handle cell leads
  have present := sound.handled cell (List.mem_of_getElem? leads)
  have total := (sound.balanced cell _ (List.getElem?_eq_getElem present)).total
  refine ⟨state.cells[cell], List.getElem?_eq_getElem present, total, ?_⟩
  intro free
  have nothing : state.cells[cell].moved = [] := by
    rw [Cell.moved, free]
  rw [nothing, List.append_nil] at total
  refine ⟨total, ?_⟩
  rw [← total, List.length_append]
  rfl

def web : Instance := { id := "1", backendName := "hosts", name := "web" }

def cache : Instance := { id := "2", backendName := "hosts", name := "cache" }

def additionOver : Call := ⟨0, .add [web, cache], .over (.added [web, cache])⟩

def takeOver : Call := ⟨0, .take, .over (.taken [web, cache])⟩

/-- Two handles on a collector: an addition and a take are over, and of a second addition, which
came while the take went on, half of the instances are in. -/
def racing : State where
  cells := [⟨⟨[cache]⟩, some (2, .adding [cache] [web])⟩]
  handles := [0, 0]
  calls := [additionOver, takeOver, ⟨0, .add [cache, web], .inside⟩]

def racingLog : List Entry :=
  [⟨0, 0, .added [web, cache]⟩, ⟨1, 0, .taken [web, cache]⟩]

theorem racing_reached : Reaches racingLog racing := by
  have cloned : Reaches [] ⟨[{}], [0, 0], []⟩ :=
    (Reaches.start.step .create).step (.clone 0 rfl)
  have asked : Reaches [] ⟨[{}], [0, 0],
      [⟨0, .add [web, cache], .waiting⟩, ⟨0, .take, .waiting⟩]⟩ :=
    (cloned.step (.call 1 (.add [web, cache]) rfl)).step (.call 0 .take rfl)
  have appended : Reaches [] ⟨[⟨⟨[web, cache]⟩, some (0, .adding [web, cache] [])⟩], [0, 0],
      [⟨0, .add [web, cache], .inside⟩, ⟨0, .take, .waiting⟩]⟩ :=
    ((asked.step (.enter 0 rfl rfl)).step (.work 0 rfl (.append {} [] web [cache]))).step
      (.work 0 rfl (.append ⟨[web]⟩ [web] cache []))
  have added : Reaches [⟨0, 0, .added [web, cache]⟩] ⟨[⟨⟨[web, cache]⟩, none⟩], [0, 0],
      [additionOver, ⟨0, .take, .waiting⟩]⟩ :=
    (appended.step (.work 0 rfl (.appended [web, cache]))).step (.leave 0 0 rfl)
  have raced : Reaches [⟨0, 0, .added [web, cache]⟩]
      ⟨[⟨⟨[web, cache]⟩, some (1, .clearing [web, cache])⟩], [0, 0],
        [additionOver, ⟨0, .take, .inside⟩, ⟨0, .add [cache, web], .waiting⟩]⟩ :=
    ((added.step (.enter 1 rfl rfl)).step (.work 0 rfl .read)).step
      (.call 1 (.add [cache, web]) rfl)
  have taken : Reaches racingLog ⟨[⟨⟨[]⟩, none⟩], [0, 0],
      [additionOver, takeOver, ⟨0, .add [cache, web], .waiting⟩]⟩ :=
    (raced.step (.work 0 rfl (.clear [web, cache]))).step (.leave 0 1 rfl)
  exact (taken.step (.enter 2 rfl rfl)).step (.work 0 rfl (.append {} [] cache [web]))

theorem conserved_racing : Reaches racingLog racing ∧
    takenFrom 0 racingLog ++ [cache] = addedTo 0 racingLog ++ [cache] ∧
    Entry.Fits ⟨1, 0, .taken [web, cache]⟩ [⟨0, 0, .added [web, cache]⟩] ∧
    takeOver.Accounted 1 racingLog := by
  obtain ⟨cells, fits, accounted⟩ := racing_reached.conserved
  obtain ⟨kept, found, total, _⟩ := cells 1 0 rfl
  cases found
  exact ⟨racing_reached, total, fits [_] _ [] rfl, accounted 1 takeOver rfl⟩

end State

end FleetSearch.Inventory.Sharing
