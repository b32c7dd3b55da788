import FleetSearch.Proofs.Backend.Extraction
import FleetSearch.Proofs.Pattern.Caseless

/-! Patterns for names against the expressions that they are on their own. Between the signs that
let it match anywhere a pattern means the same, unless it grows together with them. -/

namespace FleetSearch.Backend.Rest

open FleetSearch.Json (Decoder Value)
open FleetSearch.Network (Client fetched)
open FleetSearch.Pattern

variable {rest : Rest} {pattern : String} {filter : Regex}

/-- A pattern between the signs that let it match anywhere, without regard to case. -/
def wrapped (pattern : String) : String := "(?i).*" ++ pattern ++ ".*"

theorem toList_wrapped (pattern : String) :
    (wrapped pattern).toList = spliced pattern.toList := by
  rw [wrapped, String.toList_append, String.toList_append]
  rfl

/-- Whether a pattern can grow together with the signs around it: it starts with a sign that repeats
those in front, or ends in a backslash. -/
def Fuses (pattern : String) : Prop :=
  (∃ c rest, pattern.toList = c :: rest ∧ repeats c = true) ∨ ['\\'] <:+ pattern.toList

/-- Why an inventory lists nothing for a pattern that is refused. -/
def badPattern : Cause :=
  Cause.within ⟨.foreign .pattern, []⟩ "failed to compile regular expression from query"

/-- Neither a failed request nor a document without the array is blamed on the pattern. -/
theorem cause_ne_badPattern (error : Network.FetchError) : error.cause ≠ badPattern := by
  intro same
  have inner := congrArg Cause.inner same
  cases error <;> cases inner

theorem select_ne_badPattern (document : Value) :
    rest.select filter document ≠ .error badPattern := by
  intro same
  unfold select at same
  split at same
  · cases same
  · cases congrArg Cause.inner (Except.error.inj same)

section

variable [Dialect]

/-- Whether a pattern leaves no room for the signs around it: it ends without Unicode, where no dot
is possible, or nests as deep as patterns can, so that it is too deep with the signs, or compiles to
something too large with them. -/
def Cramped (pattern : String) : Prop :=
  ∃ found ending, spelled? {} pattern.toList = some (found, ending) ∧
    (ending.unicode = false ∧ spelled? {} (spliced pattern.toList) = none ∨
      (∃ whole last, spelled? {} (spliced pattern.toList) = some (whole, last) ∧
        depthLimit < whole.depth ∧ whole.depth ≤ found.depth + 4) ∨
      Dialect.admits (wrapped pattern) = false)

theorem nameFilter?_eq_some_iff : nameFilter? pattern = some filter ↔
    Dialect.admits (wrapped pattern) = true ∧ ∃ whole last,
      spelled? {} (spliced pattern.toList) = some (whole, last) ∧ whole.depth ≤ depthLimit ∧
        whole.regex = filter := by
  have compiles : nameFilter? pattern =
      if Dialect.admits (wrapped pattern) then Regex.readAs? {} (wrapped pattern) else none := by
    rw [← Regex.read?_eq]
    rfl
  rw [compiles, Option.ite_none_right_eq_some, Regex.readAs?_eq_some_iff, toList_wrapped]

theorem readAs?_caseless_isSome (pattern : String) :
    (Regex.readAs? caseless pattern).isSome = (Regex.read? pattern).isSome := by
  rw [Regex.read?_eq]
  exact isSome_readAs?_cased {} true pattern

theorem spelled?_of_start {flags : Flags} (plain : flags.spaced = false)
    (start : ∃ c rest, pattern.toList = c :: rest ∧ repeats c = true) :
    spelled? flags pattern.toList = none := by
  obtain ⟨c, rest, chars, again⟩ := start
  rw [chars]
  refine spelled?_repeats ?_ again
  rw [Cursor.skipped, plain]
  rfl

theorem between {alone whole : Option (DeepRegex × Flags)}
    (start : ¬∃ c rest, pattern.toList = c :: rest ∧ repeats c = true)
    (read : spelled? caseless pattern.toList = alone)
    (around : spelled? {} (spliced pattern.toList) = whole) :
    Between pattern.toList alone whole := by
  subst read around
  refine between_spliced fun c rest chars => ?_
  cases again : repeats c with
  | false => rfl
  | true => exact absurd ⟨c, rest, chars, again⟩ start

/-- A pattern that is no expression is refused, unless it grows together with the signs. -/
theorem refused_or_fuses (refused : Regex.read? pattern = none) :
    nameFilter? pattern = none ∨ Fuses pattern := by
  cases compiled : nameFilter? pattern with
  | none => exact .inl rfl
  | some filter =>
    refine .inr ?_
    by_cases start : ∃ c rest, pattern.toList = c :: rest ∧ repeats c = true
    · exact .inl start
    obtain ⟨_, whole, last, around, shallow, _⟩ := nameFilter?_eq_some_iff.mp compiled
    generalize read : spelled? caseless pattern.toList = alone
    cases between start read around with
    | slash _ _ last => exact .inr last
    | same found _ _ grown _ =>
      have accepted : Regex.readAs? caseless pattern = some found.regex :=
        Regex.readAs?_eq_some_iff.mpr
          ⟨found, last, read, Nat.le_trans grown.depth_ge shallow, rfl⟩
      have same := readAs?_caseless_isSome pattern
      rw [accepted, refused] at same
      cases same

/-- A pattern that is an expression is refused exactly if it leaves no room for the signs. -/
theorem refused_iff_cramped (valid : (Regex.read? pattern).isSome) :
    nameFilter? pattern = none ↔ Cramped pattern := by
  obtain ⟨regex, valid⟩ := Option.isSome_iff_exists.mp valid
  rw [Regex.read?_eq] at valid
  obtain ⟨found, ending, read, shallow, _⟩ := Regex.readAs?_eq_some_iff.mp valid
  constructor
  · intro refused
    refine ⟨found, ending, read, ?_⟩
    cases admitted : Dialect.admits (wrapped pattern) with
    | false => exact .inr (.inr rfl)
    | true =>
      have start : ¬∃ c rest, pattern.toList = c :: rest ∧ repeats c = true := by
        intro start
        cases read.symm.trans (spelled?_of_start rfl start)
      -- The signs are read without regard to case, where the pattern is as deep as it is with it.
      rcases spelled?_cased {} true pattern.toList with
        ⟨none, _⟩ | ⟨_, other, _, _, first, second, depth⟩
      · cases read.symm.trans none
      · cases read.symm.trans first
        generalize around : spelled? {} (spliced pattern.toList) = whole
        cases between start second around with
        | bytes _ _ bytes => exact .inl ⟨bytes, rfl⟩
        | same _ whole _ grown _ =>
          refine .inr (.inl ⟨whole, _, rfl, Nat.lt_of_not_le fun fits => ?_, ?_⟩)
          · have compiled := nameFilter?_eq_some_iff.mpr
              ⟨admitted, whole, _, around, fits, rfl⟩
            cases refused.symm.trans compiled
          · rw [show found.depth = other.depth from depth]
            exact grown.depth_le
  · rintro ⟨_, _, _, cramped⟩
    rw [Option.eq_none_iff_forall_ne_some]
    intro filter compiled
    obtain ⟨admitted, whole, last, around, fits, _⟩ := nameFilter?_eq_some_iff.mp compiled
    rcases cramped with ⟨_, refused⟩ | ⟨deep, _, spelled, deeper, _⟩ | large
    · cases refused.symm.trans around
    · cases spelled.symm.trans around
      exact absurd fits (Nat.not_le_of_lt deeper)
    · cases large.symm.trans admitted

/-- A pattern that is accepted between the signs and on its own is found in the same names. -/
theorem matchesWithin_nameFilter? {regex : Regex}
    (accepted : Regex.readAs? caseless pattern = some regex)
    (compiled : nameFilter? pattern = some filter) (name : String) :
    filter.matchesWithin name = regex.matchesWithin name := by
  obtain ⟨found, ending, read, _, rfl⟩ := Regex.readAs?_eq_some_iff.mp accepted
  obtain ⟨_, whole, last, around, _, rfl⟩ := nameFilter?_eq_some_iff.mp compiled
  have start : ¬∃ c rest, pattern.toList = c :: rest ∧ repeats c = true := by
    intro start
    cases read.symm.trans (spelled?_of_start rfl start)
  cases between start read around with
  | same _ _ _ _ agrees => exact agrees name

/-- A listing fails with the error for patterns exactly if the pattern is refused, whatever comes of
its request. -/
theorem result_eq_badPattern_iff {client : Client} {firedAt : Option Nat} {time : Nat}
    {sent : List Network.Message} :
    ((rest.list pattern).run client firedAt time sent).result = .error badPattern ↔
      nameFilter? pattern = none := by
  rw [list]
  cases nameFilter? pattern with
  | none => exact ⟨fun _ => rfl, fun _ => rfl⟩
  | some filter =>
    refine ⟨fun failed => ?_, fun refused => by cases refused⟩
    dsimp only [Network.fetch, Network.Session.run] at failed
    generalize (client.exchange firedAt time sent rest.request).2.2 = outcome at failed
    cases fetches : fetched Decoder.value rest.request.url outcome with
    | error error =>
      rw [fetches] at failed
      exact absurd (Except.error.inj failed) (cause_ne_badPattern error)
    | ok document =>
      rw [fetches] at failed
      exact absurd failed (select_ne_badPattern document)

/-- How a listing goes by its pattern, whatever comes of its request. A pattern that is no
expression on its own fails with the error for patterns, unless it grows together with the signs
around it. One that is an expression fails so exactly if it leaves no room for the signs, and
otherwise keeps, of the items of the array in a response, those with a name in which the pattern
matches somewhere without regard to case. -/
theorem list_by_pattern (rest : Rest) (pattern : String) (client : Client) (firedAt : Option Nat)
    (time : Nat) (sent : List Network.Message) :
    let listed := ((rest.list pattern).run client firedAt time sent).result
    (Regex.read? pattern = none → listed = .error badPattern ∨ Fuses pattern) ∧
    ((Regex.read? pattern).isSome → ∃ regex, Regex.readAs? caseless pattern = some regex ∧
      (listed = .error badPattern ↔ Cramped pattern) ∧
      (listed ≠ .error badPattern → ∀ status body document items,
        (client.exchange firedAt time sent rest.request).2.2 = .answered status body →
        fetched Decoder.value rest.url (.answered status body) = .ok document →
        document.lookup? rest.itemsPath = some (.array items) →
          listed = .ok ((items.map rest.itemInstance).filter fun item =>
            regex.matchesWithin item.name))) := by
  intro listed
  refine ⟨fun refused => ?_, fun valid => ?_⟩
  · exact (refused_or_fuses refused).imp_left result_eq_badPattern_iff.mpr
  · obtain ⟨regex, read⟩ := Option.isSome_iff_exists.mp
      ((readAs?_caseless_isSome pattern).trans valid)
    refine ⟨regex, read, result_eq_badPattern_iff.trans (refused_iff_cramped valid), ?_⟩
    intro accepted status body document items answered fetches reached
    cases compiled : nameFilter? pattern with
    | none => exact absurd (result_eq_badPattern_iff.mpr compiled) accepted
    | some filter =>
      have answer : listed = rest.answer pattern fun _ => (status, body) := result_run_list answered
      rw [answer, answer_eq, compiled]
      dsimp only
      rw [fetches]
      dsimp only
      rw [select, reached]
      simp only [matchesWithin_nameFilter? read compiled]

end

/-- Of the two hosts, the one whose name the pattern matches without regard to case. -/
theorem list_by_pattern_hosts :
    ((nestedHosts.list "WEB").run (.servedWith (Network.bodyOf hostsDocument)) none 0 []).result =
      .ok [nestedHosts.itemInstance webHost] := by
  have matched : (Regex.readAs? caseless "WEB").any
      (fun regex => regex.matchesWithin "web-1" && !regex.matchesWithin "db-1") = true := by
    decide +kernel
  obtain ⟨-, found⟩ := list_by_pattern nestedHosts "WEB"
    (.servedWith (Network.bodyOf hostsDocument)) none 0 []
  obtain ⟨regex, read, -, lists⟩ := found (by decide +kernel)
  have accepted : nameFilter? "WEB" ≠ none := by decide +kernel
  have listed := lists (result_eq_badPattern_iff.not.mpr accepted) 200
    (Network.bodyOf hostsDocument) hostsDocument [webHost, databaseHost]
    (Client.exchange_servedWith (by decide +kernel))
    (Network.fetched_bodyOf reads_hostsDocument nestedHosts.url)
    (by rw [Value.lookup?_eq, hostsDocument, Value.follow?_along])
  rw [read] at matched
  obtain ⟨web, database⟩ : regex.matchesWithin "web-1" = true ∧
      regex.matchesWithin "db-1" = false := by simpa using matched
  have first : (nestedHosts.itemInstance webHost).name = "web-1" := by decide +kernel
  have second : (nestedHosts.itemInstance databaseHost).name = "db-1" := by decide +kernel
  rw [listed]
  simp [first, second, web, database]

/-- A star and a pattern that ends in a backslash are no expressions, but are accepted; a pattern
that turns Unicode off is one, but is refused. -/
theorem list_unlike_patterns :
    let listed := fun pattern =>
      ((nestedHosts.list pattern).run (.servedWith (Network.bodyOf hostsDocument)) none 0 []).result
    (Regex.read? "*" = none ∧ listed "*" ≠ .error badPattern) ∧
    (Regex.read? "web\\" = none ∧ listed "web\\" ≠ .error badPattern) ∧
    ((Regex.read? "(?-u)web").isSome ∧ listed "(?-u)web" = .error badPattern) := by
  have star : Regex.read? "*" = none ∧ nameFilter? "*" ≠ none := by decide +kernel
  have slash : Regex.read? "web\\" = none ∧ nameFilter? "web\\" ≠ none := by decide +kernel
  have bytes : (Regex.read? "(?-u)web").isSome ∧ nameFilter? "(?-u)web" = none := by decide +kernel
  exact ⟨star.imp_right result_eq_badPattern_iff.not.mpr,
    slash.imp_right result_eq_badPattern_iff.not.mpr,
    bytes.imp_right result_eq_badPattern_iff.mpr⟩

end FleetSearch.Backend.Rest
