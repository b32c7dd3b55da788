import FleetSearch.Config.Load
import FleetSearch.Proofs.Text.Numerals

/-! Settings under environment variables. A number or an address is what its variable spells, and
stays what it was where the variable is not set or spells nothing. A switch does not stay: a
variable that spells neither of its words turns it off. Nothing else is touched. -/

namespace FleetSearch.Config

variable {α : Type} {environment : Environment} {name : String} {former : α}

/-- Whether a value is the one that a variable spells, or the former one where the variable is not
set or spells no value. -/
def Governed (environment : Environment) (name : String) (Spells : String → α → Prop)
    (former value : α) : Prop :=
  (∀ text, environment name = some text → ∀ spelled, Spells text spelled → value = spelled) ∧
    ((∀ text, environment name = some text → ∀ spelled, ¬ Spells text spelled) → value = former)

/-- Whether a variable is set and spells no value. -/
def Garbled (environment : Environment) (name : String) (Spells : String → α → Prop) : Prop :=
  ∃ text, environment name = some text ∧ ∀ spelled, ¬ Spells text spelled

/-- Whether a text is the word for a truth value. -/
def SpellsSwitch (text : String) (on : Bool) : Prop :=
  text = "true" ∧ on = true ∨ text = "false" ∧ on = false

/-- Whether a text is a number of at most so many bits. -/
def SpellsWord (bits : Nat) (text : String) (number : Nat) : Prop :=
  Text.IsNumeral text.toList number ∧ number < 2 ^ bits

/-- A value that a variable is read for, and that stays where nothing can be read, is governed. -/
theorem governed_of_read {read : String → Option α} {Spells : String → α → Prop}
    (reads : ∀ {text spelled}, read text = some spelled ↔ Spells text spelled) (former : α) :
    Governed environment name Spells former (((environment name).bind read).getD former) := by
  constructor
  · intro text given spelled spells
    rw [given, Option.bind_some, reads.mpr spells, Option.getD_some]
  · intro nothing
    cases given : environment name with
    | none => rfl
    | some text =>
      cases found : read text with
      | none => rw [Option.bind_some, found, Option.getD_none]
      | some spelled => exact absurd (reads.mp found) (nothing text given spelled)

theorem isSwitchedOn_of_spells {text : String} {on : Bool} (spells : SpellsSwitch text on) :
    isSwitchedOn text = on := by
  rcases spells with ⟨rfl, rfl⟩ | ⟨rfl, rfl⟩ <;> rfl

theorem isSwitchedOn_of_garbled {text : String} (nothing : ∀ on, ¬ SpellsSwitch text on) :
    isSwitchedOn text = false := by
  refine beq_eq_false_iff_ne.mpr ?_
  rintro rfl
  exact nothing true (.inl ⟨rfl, rfl⟩)

/-- A switch is governed by its variable, unless it was on and the variable spells no value; then it
is turned off. -/
theorem governed_switch_iff {former : Bool} :
    Governed environment name SpellsSwitch former
        (((environment name).map isSwitchedOn).getD former) ↔
      ¬ (former = true ∧ Garbled environment name SpellsSwitch) := by
  constructor
  · rintro ⟨_, kept⟩ ⟨rfl, text, given, nothing⟩
    have stays := kept fun other same => by
      rw [given] at same
      exact Option.some.inj same ▸ nothing
    rw [given, Option.map_some, isSwitchedOn_of_garbled nothing] at stays
    cases stays
  · intro sound
    constructor
    · intro text given on spells
      rw [given, Option.map_some, isSwitchedOn_of_spells spells, Option.getD_some]
    · intro nothing
      cases given : environment name with
      | none => rfl
      | some text =>
        have garbled : ∀ on, ¬ SpellsSwitch text on := nothing text given
        have off : former = false :=
          Bool.eq_false_iff.mpr fun on => sound ⟨on, text, given, garbled⟩
        rw [Option.map_some, isSwitchedOn_of_garbled garbled, Option.getD_some, off]

namespace Settings

/-- Under the variables the lifetime of the cache, the port and the address are what their variable
spells or else what they were; so are both switches, unless one was on and its variable is set but
spells no truth value. All other settings stay. -/
theorem override_governed_iff (settings : Settings) (environment : Environment) :
    let merged := settings.override environment
    (Governed environment "HONEY_DEBUG" SpellsSwitch settings.debug merged.debug ↔
      ¬ (settings.debug = true ∧ Garbled environment "HONEY_DEBUG" SpellsSwitch)) ∧
    (Governed environment "HONEY_NO_CACHE" SpellsSwitch settings.cache.disabled
        merged.cache.disabled ↔
      ¬ (settings.cache.disabled = true ∧ Garbled environment "HONEY_NO_CACHE" SpellsSwitch)) ∧
    Governed environment "HONEY_CACHE_TTL" (SpellsWord 64) settings.cache.ttl merged.cache.ttl ∧
    Governed environment "HONEY_PORT" (SpellsWord 16) settings.server.port merged.server.port ∧
    Governed environment "HONEY_BIND_ADDRESS" (· = ·) settings.server.bindAddress
      merged.server.bindAddress ∧
    merged =
      { settings with
        debug := merged.debug
        cache := { settings.cache with disabled := merged.cache.disabled, ttl := merged.cache.ttl }
        server :=
          { settings.server with
            port := merged.server.port, bindAddress := merged.server.bindAddress } } := by
  have address : Governed environment "HONEY_BIND_ADDRESS" (· = ·) settings.server.bindAddress
      (((environment "HONEY_BIND_ADDRESS").bind some).getD settings.server.bindAddress) :=
    governed_of_read Option.some_inj settings.server.bindAddress
  rw [Option.bind_fun_some] at address
  exact ⟨governed_switch_iff, governed_switch_iff,
    governed_of_read Text.word64?_eq_some_iff settings.cache.ttl,
    governed_of_read Text.word16?_eq_some_iff settings.server.port, address, rfl⟩

/-- A settings file with a switch that is on, and with a port. -/
def debugFile (path : String) : Option File :=
  if path = "honey.yml" then some (.text "general:\n  debug: true\nserver:\n  port: 77\n")
  else none

/-- A variable for each of both that spells no value for it. -/
def wordy : Environment :=
  .ofEntries [("HONEY_DEBUG", "1"), ("HONEY_PORT", "eighty")]

/-- A variable that spells no truth value turns a switch off that the file turns on, while one that
spells no number leaves the port of the file as it is. -/
theorem garbled_switch_turned_off :
    (load debugFile (.ofEntries [])).toOption.map
        (fun settings => (settings.debug, settings.server.port)) = some (true, 77) ∧
      (load debugFile wordy).toOption.map
        (fun settings => (settings.debug, settings.server.port)) = some (false, 77) ∧
      ¬ ∀ (settings : Settings) (environment : Environment),
        Governed environment "HONEY_DEBUG" SpellsSwitch settings.debug
          (settings.override environment).debug := by
  refine ⟨by decide +kernel, by decide +kernel, fun governed => ?_⟩
  have nothing : ∀ on, ¬ SpellsSwitch "1" on := by
    rintro on (⟨word, _⟩ | ⟨word, _⟩) <;> exact absurd word (by decide)
  have stays := (governed { debug := true } wordy).2 fun text given => by
    cases given
    exact nothing
  cases stays

end Settings

end FleetSearch.Config
