import Mathlib.Data.List.Forall2
import Mathlib.Data.List.Induction
import FleetSearch.Proofs.Text.Numerals
import FleetSearch.Proofs.Text.Split
import FleetSearch.Proofs.Text.Trimmed
import FleetSearch.Web.Params

/-! The parameters that a query comes to. Pairs are taken in one after the other, but each parameter
is given by the values of its own name in their order, however they are mixed with others: of most
names the last value counts, lists go on, and no row number may be wrong, even one that a later one
replaces. -/

namespace FleetSearch.Web

variable {pairs others : List (String × String)} {pair : String × String} {name value : String}
  {number : Nat}

/-- The values of the pairs with a name, in order. -/
def valuesOf (name : String) (pairs : List (String × String)) : List String :=
  (pairs.filter fun pair => pair.1 = name).map Prod.snd

theorem valuesOf_snoc (name : String) (pairs : List (String × String)) (pair : String × String) :
    valuesOf name (pairs ++ [pair]) =
      valuesOf name pairs ++ if pair.1 = name then [pair.2] else [] := by
  unfold valuesOf
  rw [List.filter_append, List.map_append]
  by_cases same : pair.1 = name <;> simp [same]

/-- Whether a value is a row number: a numeral that fits sixty-four bits, between blanks or not. -/
def IsIndex (value : String) (number : Nat) : Prop :=
  ∃ core, Unicode.Trims value.toList core ∧ Text.IsNumeral core number ∧ number < 2 ^ 64

theorem word64?_trim_eq_some_iff :
    Text.word64? (Unicode.trim value) = some number ↔ IsIndex value number := by
  rw [Text.word64?_eq_some_iff, Unicode.trim, String.toList_ofList]
  constructor
  · exact fun numeral => ⟨_, Unicode.trims_trimChars _, numeral⟩
  · rintro ⟨core, trims, numeral⟩
    rwa [← Unicode.trims_iff.mp trims]

theorem IsIndex.unique {other : Nat} (first : IsIndex value number) (second : IsIndex value other) :
    number = other := by
  rw [← word64?_trim_eq_some_iff] at first second
  exact Option.some.inj (first.symm.trans second)

theorem index_eq_ok_iff : index name value = .ok number ↔ IsIndex value number := by
  rw [← word64?_trim_eq_some_iff, index]
  cases Text.word64? (Unicode.trim value) <;> simp

theorem index_eq_error {error : BadIndex} (refused : index name value = .error error) :
    error.name = name ∧ ∀ number, ¬ IsIndex value number := by
  constructor
  · unfold index at refused
    split at refused
    · cases refused
    · cases refused
      rfl
  · intro number isIndex
    rw [index_eq_ok_iff.mpr isIndex] at refused
    cases refused

/-- Whether names are those that a value lists: its pieces between commas without the blanks at
their ends, of which the ones that nothing is left of are no names. -/
def Lists (value : String) (names : List String) : Prop :=
  ∃ pieces cores : List (List Char), pieces ≠ [] ∧ (∀ piece ∈ pieces, ',' ∉ piece) ∧
    [','].intercalate pieces = value.toList ∧ List.Forall₂ Unicode.Trims pieces cores ∧
    names = (cores.filter (· ≠ [])).map String.ofList

theorem lists_iff {names : List String} : Lists value names ↔ names = splitList value := by
  have trimmed (pieces cores : List (List Char)) :
      List.Forall₂ Unicode.Trims pieces cores ↔ pieces.map Unicode.trimChars = cores := by
    have same : Unicode.Trims = fun piece core => Unicode.trimChars piece = core := by
      funext piece core
      exact propext (Unicode.trims_iff.trans eq_comm)
    rw [same, ← List.forall₂_map_left_iff, List.forall₂_eq_eq_eq]
  have listed : splitList value =
      (((Text.splitChars ',' value.toList).map Unicode.trimChars).filter (· ≠ [])).map
        String.ofList := by
    have each : (Unicode.trim ∘ String.ofList) = String.ofList ∘ Unicode.trimChars := by
      funext piece
      simp [Unicode.trim]
    have kept : ((fun text => decide (text ≠ "")) ∘ String.ofList) =
        fun core => decide (core ≠ []) := by
      funext core
      simp
    rw [splitList, Text.split, List.map_map, each, ← List.map_map, List.filter_map, kept]
  rw [listed]
  constructor
  · rintro ⟨pieces, cores, nonempty, apart, joined, trims, rfl⟩
    rw [← Text.eq_splitChars_iff.mpr ⟨nonempty, apart, joined⟩, (trimmed pieces cores).mp trims]
  · rintro rfl
    obtain ⟨nonempty, apart, joined⟩ :=
      Text.eq_splitChars_iff.mp (Eq.refl (Text.splitChars ',' value.toList))
    exact ⟨_, _, nonempty, apart, joined, (trimmed _ _).mpr rfl, rfl⟩

/-- The names of the parameters. -/
def parameterNames : List String :=
  ["filter", "backend", "key", "_start", "_end", "no_cache"]

namespace Params

variable {params next : Params}

/-- What a pair makes of parameters: it sets one, adds to one, or has a name that is unknown. -/
inductive Takes (params : Params) : String → String → Params → Prop where
  | filter (value : String) : Takes params "filter" value { params with filter := value }
  | backend (value : String) :
    Takes params "backend" value { params with backends := params.backends ++ splitList value }
  | key (value : String) :
    Takes params "key" value { params with keys := params.keys ++ splitList value }
  | start {value : String} {number : Nat} (isIndex : IsIndex value number) :
    Takes params "_start" value { params with start := number }
  | stop {value : String} {number : Nat} (isIndex : IsIndex value number) :
    Takes params "_end" value { params with stop := some number }
  | noCache (value : String) :
    Takes params "no_cache" value { params with noCache := isOn value }
  | unknown {name : String} (value : String) (other : name ∉ parameterNames) :
    Takes params name value params

private theorem exists_of_map {α β ε : Type} {result : Except ε α} {f : α → β} {mapped : β}
    (ok : result.map f = .ok mapped) : ∃ inner, result = .ok inner ∧ f inner = mapped := by
  cases result with
  | error => cases ok
  | ok inner => exact ⟨inner, rfl, Except.ok.inj ok⟩

theorem takes_of_add (added : params.add pair = .ok next) : params.Takes pair.1 pair.2 next := by
  unfold Params.add at added
  split at added
  · cases added
    exact .filter _
  · cases added
    exact .backend _
  · cases added
    exact .key _
  · obtain ⟨number, isIndex, rfl⟩ := exists_of_map added
    exact .start (index_eq_ok_iff.mp isIndex)
  · obtain ⟨number, isIndex, rfl⟩ := exists_of_map added
    exact .stop (index_eq_ok_iff.mp isIndex)
  · cases added
    exact .noCache _
  · rename_i filter backend key start stop noCache
    cases added
    refine .unknown _ fun known => ?_
    simp only [parameterNames, List.mem_cons, List.not_mem_nil, or_false] at known
    rcases known with known | known | known | known | known | known
    · exact filter pair.2 (Prod.ext known rfl)
    · exact backend pair.2 (Prod.ext known rfl)
    · exact key pair.2 (Prod.ext known rfl)
    · exact start pair.2 (Prod.ext known rfl)
    · exact stop pair.2 (Prod.ext known rfl)
    · exact noCache pair.2 (Prod.ext known rfl)

/-- A pair is refused only for a row number that is none. -/
theorem refused_by_add {error : BadIndex} (refused : params.add pair = .error error) :
    error.name ∈ ["_start", "_end"] ∧ pair.1 = error.name ∧ ∀ number, ¬ IsIndex pair.2 number := by
  have failed {name value : String} {f : Nat → Params}
      (mapped : (index name value).map f = .error error) :
      error.name = name ∧ ∀ number, ¬ IsIndex value number := by
    refine index_eq_error ?_
    cases read : index name value with
    | error other =>
      rw [read] at mapped
      exact congrArg Except.error (Except.error.inj mapped)
    | ok number =>
      rw [read] at mapped
      cases mapped
  unfold Params.add at refused
  split at refused
  case h_4 =>
    obtain ⟨named, wrong⟩ := failed refused
    exact ⟨by simp [named], named.symm, wrong⟩
  case h_5 =>
    obtain ⟨named, wrong⟩ := failed refused
    exact ⟨by simp [named], named.symm, wrong⟩
  all_goals cases refused

/-- Whether parameters are what the values of each name come to: the last filter, the names that
all lists have, the last row numbers, and the last word on stored results. No value that should be
a row number is none. -/
structure Gathers (pairs : List (String × String)) (params : Params) : Prop where
  filter : params.filter = (valuesOf "filter" pairs).getLast?.getD ""
  backends : params.backends = (valuesOf "backend" pairs).flatMap splitList
  keys : params.keys = (valuesOf "key" pairs).flatMap splitList
  start : match (valuesOf "_start" pairs).getLast? with
    | some value => IsIndex value params.start
    | none => params.start = 0
  stop : match (valuesOf "_end" pairs).getLast? with
    | some value => ∃ number, params.stop = some number ∧ IsIndex value number
    | none => params.stop = none
  noCache : params.noCache = true ↔
    ∃ value ∈ ["", "1", "true"], (valuesOf "no_cache" pairs).getLast? = some value
  starts : ∀ value ∈ valuesOf "_start" pairs, ∃ number, IsIndex value number
  stops : ∀ value ∈ valuesOf "_end" pairs, ∃ number, IsIndex value number

theorem gathers_nil : Gathers [] {} := by
  constructor <;> simp [valuesOf]

theorem isOn_iff : isOn value = true ↔ value ∈ ["", "1", "true"] := by
  simp [isOn, or_assoc]

/-- One more pair counts for the parameter of its name, and all others stay what they were. -/
theorem Gathers.snoc (gathers : Gathers pairs params)
    (takes : params.Takes pair.1 pair.2 next) : Gathers (pairs ++ [pair]) next := by
  obtain ⟨filter, backends, keys, start, stop, noCache, starts, stops⟩ := gathers
  obtain ⟨name, value⟩ := pair
  have own : valuesOf name (pairs ++ [(name, value)]) = valuesOf name pairs ++ [value] := by
    simp [valuesOf_snoc]
  have last : (valuesOf name (pairs ++ [(name, value)])).getLast? = some value := by
    simp [own]
  have same {other : String} (different : name ≠ other) :
      valuesOf other (pairs ++ [(name, value)]) = valuesOf other pairs := by
    simp [valuesOf_snoc, different]
  dsimp only at takes
  cases takes with
  | filter =>
    constructor
    case filter => rw [last, Option.getD_some]
    all_goals rwa [same (by decide)]
  | backend =>
    constructor
    case backends => rw [own, List.flatMap_append, List.flatMap_singleton, backends]
    all_goals rwa [same (by decide)]
  | key =>
    constructor
    case keys => rw [own, List.flatMap_append, List.flatMap_singleton, keys]
    all_goals rwa [same (by decide)]
  | start isIndex =>
    constructor
    case start => rwa [last]
    case starts =>
      rw [own, List.forall_mem_append]
      exact ⟨starts, List.forall_mem_singleton.mpr ⟨_, isIndex⟩⟩
    all_goals rwa [same (by decide)]
  | stop isIndex =>
    constructor
    case stop =>
      rw [last]
      exact ⟨_, rfl, isIndex⟩
    case stops =>
      rw [own, List.forall_mem_append]
      exact ⟨stops, List.forall_mem_singleton.mpr ⟨_, isIndex⟩⟩
    all_goals rwa [same (by decide)]
  | noCache =>
    constructor
    case noCache =>
      rw [last, isOn_iff]
      simp
    all_goals rwa [same (by decide)]
  | unknown _ other =>
    have stays {known : String} (member : known ∈ parameterNames) :
        valuesOf known (pairs ++ [(name, value)]) = valuesOf known pairs :=
      same fun equal => other (equal ▸ member)
    constructor
    all_goals rwa [stays (by decide)]

theorem ofPairs_snoc (pairs : List (String × String)) (pair : String × String) :
    ofPairs (pairs ++ [pair]) = ofPairs pairs >>= fun params => params.add pair := by
  rw [ofPairs, List.foldlM_append, ofPairs]
  exact bind_congr fun params => by simp

theorem gathers_of_ofPairs (read : ofPairs pairs = .ok params) : Gathers pairs params := by
  induction pairs using List.reverseRecOn generalizing params with
  | nil =>
    cases read
    exact gathers_nil
  | append_singleton pairs pair ih =>
    rw [ofPairs_snoc] at read
    cases earlier : ofPairs pairs with
    | error error =>
      rw [earlier] at read
      cases read
    | ok before =>
      rw [earlier] at read
      exact (ih earlier).snoc (takes_of_add read)

/-- Pairs are refused for a row number among them that is none, under its name. -/
theorem refused_by_ofPairs {error : BadIndex} (refused : ofPairs pairs = .error error) :
    error.name ∈ ["_start", "_end"] ∧
      ∃ value ∈ valuesOf error.name pairs, ∀ number, ¬ IsIndex value number := by
  induction pairs using List.reverseRecOn with
  | nil => cases refused
  | append_singleton pairs pair ih =>
    rw [ofPairs_snoc] at refused
    rw [valuesOf_snoc]
    cases earlier : ofPairs pairs with
    | error first =>
      rw [earlier] at refused
      cases refused
      obtain ⟨named, value, member, wrong⟩ := ih earlier
      exact ⟨named, value, List.mem_append_left _ member, wrong⟩
    | ok before =>
      rw [earlier] at refused
      obtain ⟨named, own, wrong⟩ := refused_by_add refused
      refine ⟨named, pair.2, List.mem_append_right _ ?_, wrong⟩
      rw [if_pos own]
      exact List.mem_singleton_self _

theorem Gathers.exists_isIndex (gathers : Gathers pairs params) (named : name ∈ ["_start", "_end"])
    (member : value ∈ valuesOf name pairs) : ∃ number, IsIndex value number := by
  simp only [List.mem_cons, List.not_mem_nil, or_false] at named
  rcases named with rfl | rfl
  · exact gathers.starts value member
  · exact gathers.stops value member

/-- The values of the names decide, not their order among each other. -/
theorem Gathers.congr (same : ∀ name ∈ parameterNames, valuesOf name pairs = valuesOf name others)
    (gathers : Gathers pairs params) : Gathers others params := by
  obtain ⟨filter, backends, keys, start, stop, noCache, starts, stops⟩ := gathers
  have stays {name : String} (member : name ∈ parameterNames) :
      valuesOf name others = valuesOf name pairs := (same name member).symm
  constructor
  all_goals rwa [stays (by decide)]

theorem Gathers.unique (first : Gathers pairs params) (second : Gathers pairs next) :
    params = next := by
  have noCache : params.noCache = next.noCache :=
    Bool.eq_iff_iff.mpr (first.noCache.trans second.noCache.symm)
  have start : params.start = next.start := by
    have one := first.start
    have other := second.start
    cases latest : (valuesOf "_start" pairs).getLast? with
    | none =>
      rw [latest] at one other
      exact one.trans other.symm
    | some value =>
      rw [latest] at one other
      exact one.unique other
  have stop : params.stop = next.stop := by
    have one := first.stop
    have other := second.stop
    cases latest : (valuesOf "_end" pairs).getLast? with
    | none =>
      rw [latest] at one other
      exact one.trans other.symm
    | some value =>
      rw [latest] at one other
      obtain ⟨number, set, isIndex⟩ := one
      obtain ⟨again, reset, isAgain⟩ := other
      rw [set, reset, isIndex.unique isAgain]
  cases params
  cases next
  simp only [Params.mk.injEq]
  exact ⟨first.filter.trans second.filter.symm, first.backends.trans second.backends.symm,
    first.keys.trans second.keys.symm, start, stop, noCache⟩

/-- Pairs come to the same parameters as others with the same values of each name. -/
theorem ofPairs_congr
    (same : ∀ name ∈ parameterNames, valuesOf name pairs = valuesOf name others)
    (read : ofPairs pairs = .ok params) : ofPairs others = .ok params := by
  have gathers : Gathers others params := (gathers_of_ofPairs read).congr same
  cases found : ofPairs others with
  | ok other => rw [gathers.unique (gathers_of_ofPairs found)]
  | error error =>
    obtain ⟨named, value, member, wrong⟩ := refused_by_ofPairs found
    obtain ⟨number, isIndex⟩ := gathers.exists_isIndex named member
    exact absurd isIndex (wrong number)

theorem toOption_ofPairs_congr
    (same : ∀ name ∈ parameterNames, valuesOf name pairs = valuesOf name others) :
    (ofPairs pairs).toOption = (ofPairs others).toOption := by
  cases first : ofPairs pairs with
  | ok params => rw [ofPairs_congr same first]
  | error error =>
    cases second : ofPairs others with
    | error other => rfl
    | ok params =>
      have read := ofPairs_congr (fun name member => (same name member).symm) second
      rw [first] at read
      cases read

/-- A query is refused exactly if one of its values that should be a row number is none, replaced
later or not; otherwise it comes to the parameters that the values of each name give, where lists
have the pieces between commas. So queries that have the same values of each name come to the same
parameters, or are both refused. -/
theorem read_gathers (query : Option String) :
    ((∃ error, read query = .error error) ↔ ∃ name ∈ ["_start", "_end"],
      ∃ value ∈ valuesOf name (Url.formRead (query.getD "")), ∀ number, ¬ IsIndex value number) ∧
    (∀ params, read query = .ok params → Gathers (Url.formRead (query.getD "")) params) ∧
    (∀ value names, names = splitList value ↔ Lists value names) ∧
    ∀ other : Option String,
      (∀ name ∈ parameterNames, valuesOf name (Url.formRead (query.getD "")) =
        valuesOf name (Url.formRead (other.getD ""))) →
      (read query).toOption = (read other).toOption := by
  refine ⟨⟨?_, ?_⟩, fun params => gathers_of_ofPairs, fun _ _ => lists_iff.symm,
    fun other => toOption_ofPairs_congr⟩
  · rintro ⟨error, refused⟩
    obtain ⟨named, wrong⟩ := refused_by_ofPairs refused
    exact ⟨error.name, named, wrong⟩
  · rintro ⟨name, named, value, member, wrong⟩
    cases found : read query with
    | error error => exact ⟨error, rfl⟩
    | ok params =>
      obtain ⟨number, isIndex⟩ := (gathers_of_ofPairs found).exists_isIndex named member
      exact absurd isIndex (wrong number)

/-- A query with repeated names, an encoded comma and a space in front of a row number. -/
def mixedQuery : String :=
  "_start=7&backend=a,%20,b&filter=db&filter=web&_start=+2&backend=c%2Ca&no_cache"

/-- The same values name by name, and a name that is unknown. -/
def sortedQuery : String :=
  "backend=a,+,b&backend=c,a&filter=db&filter=web&no_cache=&page=1&_start=7&_start=%202"

def mixedParams : Params :=
  { filter := "web", backends := ["a", "b", "c", "a"], start := 2, noCache := true }

theorem read_gathers_mixed :
    read (some mixedQuery) = .ok mixedParams ∧ Gathers (Url.formRead mixedQuery) mixedParams ∧
      (∀ name ∈ parameterNames, valuesOf name (Url.formRead mixedQuery) =
        valuesOf name (Url.formRead sortedQuery)) ∧
      (read (some mixedQuery)).toOption = (read (some sortedQuery)).toOption ∧
      ∃ error, read (some "_start=-1&_start=2") = .error error := by
  have found : read (some mixedQuery) = .ok mixedParams := by decide +kernel
  have same : ∀ name ∈ parameterNames, valuesOf name (Url.formRead mixedQuery) =
      valuesOf name (Url.formRead sortedQuery) := by decide +kernel
  obtain ⟨_, gathers, _, reordered⟩ := read_gathers (some mixedQuery)
  exact ⟨found, gathers _ found, same, reordered (some sortedQuery) same, ⟨"_start"⟩,
    by decide +kernel⟩

end Params

end FleetSearch.Web
