import Mathlib.Algebra.Order.Field.Rat
import Mathlib.Tactic.Positivity
import FleetSearch.Config.Document
import FleetSearch.Network.Client
import FleetSearch.Proofs.Yaml.Reading
import FleetSearch.Web.Memo

/-! What of a settings file keeps the service from starting. -/

namespace FleetSearch

namespace Decimal.Binary64

/-- A number of units of which so many are one, with a sign. -/
def signedQuotient (negative : Bool) (units unit : Nat) : ℚ :=
  if negative then -(units / unit) else units / unit

/-- The number that a double stands for, if it is one. -/
def value? : Binary64 → Option ℚ
  | .finite negative mantissa exponent =>
    some (signedQuotient negative (mantissa * Nat.pow 2 exponent) (Nat.pow 2 1074))
  | _ => none

/-- Whether a double is a number of seconds, at least zero and below `2 ^ 64`. -/
def IsSpan (timeout : Binary64) : Prop :=
  ∃ seconds : ℚ, timeout.value? = some seconds ∧ 0 ≤ seconds ∧ seconds < 2 ^ 64

/-- A signed quotient is such a number if it is not below zero, and few enough thousandths. -/
theorem signedQuotient_inRange_iff {negative : Bool} {units unit : Nat} (one : 0 < unit) :
    (0 ≤ signedQuotient negative units unit ∧ signedQuotient negative units unit < 2 ^ 64) ↔
      ¬ (negative = true ∧ units ≠ 0) ∧ units * 1000 / unit < Nat.pow 2 64 * 1000 := by
  have positive : (0 : ℚ) < unit := by exact_mod_cast one
  have sound : (0 : ℚ) ≤ units / unit := by positivity
  have bound : units * 1000 / unit < Nat.pow 2 64 * 1000 ↔ (units / unit : ℚ) < 2 ^ 64 := by
    have thousandths : Nat.pow 2 64 * 1000 * unit = 2 ^ 64 * unit * 1000 := Nat.mul_right_comm _ _ _
    rw [div_lt_iff₀ positive, Nat.div_lt_iff_lt_mul one, thousandths,
      Nat.mul_lt_mul_right (by decide)]
    exact_mod_cast Iff.rfl
  rw [bound, signedQuotient]
  cases negative with
  | false => simp [sound]
  | true =>
    by_cases zero : units = 0
    · simp [zero]
    · have above : (0 : ℚ) < units / unit :=
        div_pos (by exact_mod_cast Nat.pos_of_ne_zero zero) positive
      simpa [zero] using fun below => absurd above (not_lt.mpr below)

/-- A finite double and its multiples rounded down are quotients by one and the same unit. -/
theorem exists_unit (negative : Bool) (mantissa exponent : Nat) :
    ∃ bits : Nat,
      (finite negative mantissa exponent).value? =
        some (signedQuotient negative (mantissa * Nat.pow 2 exponent) (Nat.pow 2 bits)) ∧
      ∀ scale, (finite negative mantissa exponent).floorScaled scale =
        some (mantissa * Nat.pow 2 exponent * scale / Nat.pow 2 bits) :=
  ⟨_, rfl, fun _ => rfl⟩

/-- The numbers of seconds are the doubles not below zero that come to few enough milliseconds. -/
theorem isSpan_iff {timeout : Binary64} :
    timeout.IsSpan ↔ ∃ millis, timeout.floorScaled 1000 = some millis ∧
      ¬ (timeout.isBelowZero = true ∨ millis ≥ Nat.pow 2 64 * 1000) := by
  cases timeout with
  | finite negative mantissa exponent =>
    -- The unit goes by a name, so that nothing below works out how much it is.
    obtain ⟨bits, valued, floored⟩ := exists_unit negative mantissa exponent
    have one : 0 < Nat.pow 2 bits := Nat.two_pow_pos bits
    have below : (finite negative mantissa exponent).isBelowZero = true ↔
        negative = true ∧ mantissa * Nat.pow 2 exponent ≠ 0 := by simp [isBelowZero]
    simp only [IsSpan, valued, floored, below, Option.some_inj, exists_eq_left']
    rw [signedQuotient_inRange_iff one, not_or, not_le]
  | infinite | notANumber => simp [IsSpan, value?, floorScaled]

end Decimal.Binary64

theorem Config.OutgoingSettings.default_isSpan : (requestTimeout {}).IsSpan :=
  Decimal.Binary64.isSpan_iff.mpr ⟨10000, by decide +kernel, by decide +kernel⟩

/-- There is no client with a timeout that is no number of seconds, and one with any other. -/
theorem Network.Client.ofSettings_refused_iff (settings : Config.OutgoingSettings)
    (network : Network) :
    (∃ refusal, Client.ofSettings settings network = .error refusal) ↔
      ¬ settings.requestTimeout.IsSpan := by
  rw [Decimal.Binary64.isSpan_iff, Client.ofSettings]
  cases scaled : settings.requestTimeout.floorScaled 1000 with
  | none => simp
  | some millis =>
    dsimp only
    split
    · rename_i bad
      refine iff_of_true ⟨_, rfl⟩ ?_
      rintro ⟨_, same, good⟩
      cases same
      exact good bad
    · rename_i good
      refine iff_of_false ?_ (not_not_intro ⟨millis, rfl, good⟩)
      rintro ⟨refusal, made⟩
      cases made

/-- There is no memory for longer than a thousand years, and one for any other lifetime. -/
theorem Web.Memo.ofSettings_refused_iff {α : Type} (settings : Config.ServerSettings) :
    (∃ refusal, (Memo.ofSettings settings : Except BadLifetime (Memo α)) = .error refusal) ↔
      longestLifetime < settings.responseCacheTtl := by
  unfold Memo.ofSettings
  split
  · rename_i long
    exact iff_of_true ⟨_, rfl⟩ long
  · rename_i short
    refine iff_of_false ?_ short
    rintro ⟨refusal, made⟩
    cases made

namespace Config.Settings

open FleetSearch.Yaml
open FleetSearch.Yaml.Decode (Gives Governs gives_fields gives_part gives_withDefault)

variable {targets : List (Nat × Node)}

theorem gives_decodeOutgoing (node : Node) :
    Gives targets (decodeOutgoing node) fun settings =>
      Governs targets node ["request_timeout"] Plain.float?
        (OutgoingSettings.requestTimeout {}) settings.requestTimeout := by
  refine (gives_fields _ node).bind fun fields read => ?_
  rcases read with _ | ⟨timeout, _ | ⟨_, _ | ⟨_, _ | _⟩⟩⟩
  refine (gives_part timeout).bind fun timeout governed => ?_
  exact .last _ fun verifyTls => .last _ fun userAgent => .pure governed

theorem gives_decodeServer (node : Node) :
    Gives targets (decodeServer node) fun settings =>
      Governs targets node ["response_cache_ttl"] (Decode.bounded? (Nat.pow 2 64))
        (ServerSettings.responseCacheTtl {}) settings.responseCacheTtl := by
  refine (gives_fields _ node).bind fun fields read => ?_
  rcases read with _ | ⟨_, _ | ⟨_, _ | ⟨lifetime, _ | ⟨_, _ | _⟩⟩⟩⟩
  refine .last _ fun port => .last _ fun bindAddress => ?_
  refine (gives_part lifetime).bind fun lifetime governed => ?_
  exact .last _ fun capacity => .pure governed

theorem gives_decode (node : Node) :
    Gives targets (decode node) fun settings =>
      Governs targets node ["outgoing", "request_timeout"] Plain.float?
          (OutgoingSettings.requestTimeout {}) settings.outgoing.requestTimeout ∧
        Governs targets node ["server", "response_cache_ttl"] (Decode.bounded? (Nat.pow 2 64))
          (ServerSettings.responseCacheTtl {}) settings.server.responseCacheTtl := by
  refine (gives_fields _ node).bind fun fields read => ?_
  rcases read with _ | ⟨_, _ | ⟨_, _ | ⟨server, _ | ⟨outgoing, _ | ⟨_, _ | _⟩⟩⟩⟩⟩
  refine .last _ fun debug => .last _ fun cache => ?_
  refine (gives_withDefault gives_decodeServer rfl server).bind fun server lifetime => ?_
  refine (gives_withDefault gives_decodeOutgoing rfl outgoing).bind fun outgoing timeout => ?_
  exact .last _ fun backends => .pure ⟨timeout, lifetime⟩

/-- Whether a file says a text where names lead to. -/
def Tells (file : String) (path : List String) (text : String) : Prop :=
  ∃ document ∈ Document.ofText? file, document.Says path text

instance (file : String) (path : List String) (text : String) :
    Decidable (Tells file path text) :=
  inferInstanceAs (Decidable (∃ document ∈ Document.ofText? file, document.Says path text))

theorem tells_iff {file text : String} {path : List String} {document : Document}
    (spelled : Document.ofText? file = some document) :
    Tells file path text ↔ document.Says path text := by
  simp [Tells, spelled]

/-- There are two ways in which an accepted file keeps the service from starting. There is no client
if and only if the file tells a timeout that is no number of seconds, at least zero and below
`2 ^ 64`; and there is no memory of responses if and only if it tells a lifetime above a thousand
years. -/
theorem refused_iff {file : String} {settings : Settings} (accepted : read? file = some settings) :
    (∀ network, (∃ refusal, Network.Client.ofSettings settings.outgoing network = .error refusal) ↔
      ∃ text timeout, Tells file ["outgoing", "request_timeout"] text ∧
        Plain.float? text = some timeout ∧ ¬ timeout.IsSpan) ∧
    (∀ α : Type, (∃ refusal,
        (Web.Memo.ofSettings settings.server : Except Web.BadLifetime (Web.Memo α)) =
          .error refusal) ↔
      ∃ text seconds, Tells file ["server", "response_cache_ttl"] text ∧
        Decode.bounded? (Nat.pow 2 64) text = some seconds ∧ Web.longestLifetime < seconds) := by
  obtain ⟨document, spelled, decoded⟩ := Option.bind_eq_some_iff.mp accepted
  obtain ⟨timeout, lifetime⟩ := Gives.of_document gives_decode decoded
  simp only [tells_iff spelled]
  constructor
  · intro network
    rw [Network.Client.ofSettings_refused_iff]
    exact timeout.fails_iff (fun timeout => ¬ timeout.IsSpan)
      (not_not_intro OutgoingSettings.default_isSpan)
  · intro α
    rw [Web.Memo.ofSettings_refused_iff]
    exact lifetime.fails_iff (Web.longestLifetime < ·) (by decide)

/-- A file with a timeout below zero, and with a lifetime of a second more than a thousand years. -/
def hasty : String :=
  "outgoing:\n  request_timeout: -1\nserver:\n  response_cache_ttl: 31536000001\n"

/-- The file is accepted, and there is neither a client nor a memory of responses. -/
theorem refused_iff_hasty :
    ∃ settings, read? hasty = some settings ∧
      (∀ network, ∃ refusal,
        Network.Client.ofSettings settings.outgoing network = .error refusal) ∧
      ∀ α : Type, ∃ refusal,
        (Web.Memo.ofSettings settings.server : Except Web.BadLifetime (Web.Memo α)) =
          .error refusal := by
  have read : (read? hasty).isSome := by decide +kernel
  obtain ⟨settings, accepted⟩ := Option.isSome_iff_exists.mp read
  obtain ⟨client, memory⟩ := refused_iff accepted
  refine ⟨settings, accepted, fun network => (client network).mpr ?_, fun α => (memory α).mpr ?_⟩
  · refine ⟨"-1", .ofInt (-1), by decide +kernel, by decide +kernel, ?_⟩
    rw [Decimal.Binary64.isSpan_iff]
    rintro ⟨_, _, inRange⟩
    exact inRange (.inl (by decide +kernel))
  · exact ⟨"31536000001", 31536000001, by decide +kernel, by decide +kernel, by decide⟩

/-- Not all that is accepted lets the service start. -/
theorem accepted_refused :
    (read? hasty).map (fun settings =>
        (Network.Client.ofSettings settings.outgoing Network.unreachable).isOk) = some false ∧
      (read? hasty).map (fun settings =>
        (Web.Memo.ofSettings settings.server : Except Web.BadLifetime (Web.Memo Unit)).isOk) =
          some false ∧
      ¬ ∀ (file : String) (settings : Settings) (network : Network), read? file = some settings →
        (Network.Client.ofSettings settings.outgoing network).isOk ∧
          (Web.Memo.ofSettings settings.server : Except Web.BadLifetime (Web.Memo Unit)).isOk := by
  have noClient : (read? hasty).map (fun settings =>
      (Network.Client.ofSettings settings.outgoing Network.unreachable).isOk) = some false := by
    decide +kernel
  refine ⟨noClient, by decide +kernel, fun starts => ?_⟩
  obtain ⟨settings, accepted, refused⟩ := Option.map_eq_some_iff.mp noClient
  have made := (starts hasty settings Network.unreachable accepted).1
  rw [refused] at made
  cases made

end Config.Settings

end FleetSearch
