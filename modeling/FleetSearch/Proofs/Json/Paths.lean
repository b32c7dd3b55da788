import FleetSearch.Json.Lookup
import FleetSearch.Proofs.Json.RoundTrip
import FleetSearch.Proofs.Text.Split

/-! Paths into values as lists of steps: each step leads one level deeper, to at most one value, and
every path leads somewhere in a value that is built along it. -/

namespace FleetSearch.Json

/-- The steps of a path, of which the empty one has none. -/
def pathSteps (path : String) : List String :=
  if path = "" then [] else Text.split '.' path

theorem pathSteps_injective {path other : String} (same : pathSteps path = pathSteps other) :
    path = other := by
  have nonempty (text : String) : Text.split '.' text ≠ [] := by
    simp [Text.split, Text.splitChars_ne_nil]
  unfold pathSteps at same
  split at same <;> split at same
  · rename_i first second
    rw [first, second]
  · exact absurd same.symm (nonempty other)
  · exact absurd same (nonempty path)
  · exact Text.split_injective same

namespace Value

variable {value inner leaf : Value} {path other : List String} {step : String}

theorem lookup?_eq (value : Value) (path : String) :
    value.lookup? path = value.follow? (pathSteps path) := by
  unfold lookup? pathSteps
  split <;> rfl

theorem nesting_lt_of_step? (stepped : value.step? step = some inner) :
    inner.nesting < value.nesting := by
  unfold step? at stepped
  split at stepped
  · rename_i members
    have member := Entries.mem_of_get? stepped
    have depth := membersNesting_le_iff.mp (Nat.le_refl (membersNesting members)) _ member
    exact Nat.lt_succ_of_le depth
  · obtain ⟨place, _, found⟩ := Option.bind_eq_some_iff.mp stepped
    exact (item_within (List.mem_of_getElem? found)).2
  · cases stepped

theorem nesting_add_length_le (reached : value.follow? path = some inner) :
    inner.nesting + path.length ≤ value.nesting := by
  induction path generalizing value with
  | nil =>
    cases reached
    exact Nat.le_refl _
  | cons step rest ih =>
    obtain ⟨next, stepped, followed⟩ := Option.bind_eq_some_iff.mp reached
    have deeper := nesting_lt_of_step? stepped
    have remaining := ih followed
    rw [List.length_cons]
    omega

/-- Where steps lead in a value: by the name of a member in an object, and by the place of an item
in an array, for which any text that reads as a number will do. -/
inductive Leads : Value → List String → Value → Prop where
  | here {value : Value} : Leads value [] value
  | member {members : List (String × Value)} {step : String} {rest : List String}
      {next target : Value} (present : (step, next) ∈ members) (onward : Leads next rest target) :
      Leads (.object members) (step :: rest) target
  | item {items : List Value} {step : String} {place : Nat} {rest : List String}
      {next target : Value} (reads : Text.word64? step = some place)
      (present : items[place]? = some next) (onward : Leads next rest target) :
      Leads (.array items) (step :: rest) target

theorem leads_of_follow? (reached : value.follow? path = some inner) : value.Leads path inner := by
  induction path generalizing value with
  | nil =>
    cases reached
    exact .here
  | cons step rest ih =>
    obtain ⟨next, stepped, followed⟩ := Option.bind_eq_some_iff.mp reached
    unfold step? at stepped
    split at stepped
    · exact .member (Entries.mem_of_get? stepped) (ih followed)
    · obtain ⟨place, reads, present⟩ := Option.bind_eq_some_iff.mp stepped
      exact .item reads present (ih followed)
    · cases stepped

/-- In values with members in order, paths are followed to where they lead. -/
theorem leads_iff (sorted : value.Every IsSorted) :
    value.Leads path inner ↔ value.follow? path = some inner := by
  refine ⟨fun leads => ?_, leads_of_follow?⟩
  induction leads with
  | here => rfl
  | member present onward ih =>
    have found := Entries.get?_of_mem sorted.1 present
    exact Option.bind_eq_some_iff.mpr ⟨_, found, ih ((member_within present).2 _ sorted)⟩
  | item reads present onward ih =>
    have member := List.mem_of_getElem? present
    have found := Option.bind_eq_some_iff.mpr ⟨_, reads, present⟩
    exact Option.bind_eq_some_iff.mpr ⟨_, found, ih ((item_within member).1.2 _ sorted)⟩

theorem follow?_append (value : Value) (front back : List String) :
    value.follow? (front ++ back) = (value.follow? front).bind fun next => next.follow? back := by
  induction front generalizing value with
  | nil => rfl
  | cons step rest ih =>
    rw [List.cons_append, follow?, follow?, Option.bind_assoc]
    exact Option.bind_congr fun next _ => ih next

theorem pathSteps_append {front back : String} (frontNonempty : front ≠ "")
    (backNonempty : back ≠ "") :
    pathSteps (front ++ "." ++ back) = pathSteps front ++ pathSteps back := by
  have dotted : front ++ "." ++ back ≠ "" := by
    intro empty
    have chars := congrArg String.toList empty
    rw [String.toList_append, String.toList_append] at chars
    cases (List.append_eq_nil_iff.mp (List.append_eq_nil_iff.mp chars).1).2
  rw [pathSteps, pathSteps, pathSteps, if_neg dotted, if_neg frontNonempty, if_neg backNonempty]
  exact Text.split_append front back

/-- A path with a dot and a further path behind it leads where the further one leads from there, and
nowhere if the first one does. Every nonempty path leads by its pieces between dots: in an object by
the names of members, and in an array by numbers of places. -/
theorem lookup?_joined {front back : String} (frontNonempty : front ≠ "")
    (backNonempty : back ≠ "") (value : Value) :
    value.lookup? (front ++ "." ++ back) =
        (value.lookup? front).bind (fun reached => reached.lookup? back) ∧
      (value.Every IsSorted → ∀ target,
        value.lookup? front = some target ↔ value.Leads (Text.split '.' front) target) := by
  constructor
  · rw [lookup?_eq, lookup?_eq, pathSteps_append frontNonempty backNonempty, follow?_append]
    exact Option.bind_congr fun reached _ => (lookup?_eq reached back).symm
  · intro sorted target
    rw [leads_iff sorted, lookup?, if_neg frontNonempty]

/-- An array under an empty name, with an object in it that has a number for a name. -/
def numbered : Value :=
  .object [("a", .object [("", .array [.null, .object [("1", .string "x")]])])]

theorem lookup?_joined_numbered :
    "a." ≠ "" ∧ "+1.1" ≠ "" ∧ numbered.Every IsSorted ∧
      numbered.lookup? ("a." ++ "." ++ "+1.1") = some (.string "x") ∧
      numbered.Leads ["a", ""] (.array [.null, .object [("1", .string "x")]]) := by
  have first : "a." ≠ "" := by decide
  have second : "+1.1" ≠ "" := by decide
  have sorted : numbered.Every IsSorted := by
    simp [numbered, Value.Every, ItemsEvery, MembersEvery, IsSorted, Entries.Sorted, Entries.keys]
  obtain ⟨joined, leads⟩ := lookup?_joined first second numbered
  have steps : Text.split '.' "a." = ["a", ""] := by decide
  have reached : numbered.lookup? "a." = some (.array [.null, .object [("1", .string "x")]]) :=
    rfl
  refine ⟨first, second, sorted, ?_, ?_⟩
  · rw [joined, reached]
    rfl
  · rw [← steps]
    exact (leads sorted _).mp reached

/-- Objects inside one another along a path, with a value at its end. -/
def along (leaf : Value) : List String → Value
  | [] => leaf
  | step :: rest => .object [(step, leaf.along rest)]

theorem follow?_along (leaf : Value) (path : List String) :
    (leaf.along path).follow? path = some leaf := by
  induction path with
  | nil => rfl
  | cons step rest ih => simp [along, follow?, step?, Entries.get?, ih]

theorem nesting_along (leaf : Value) (path : List String) :
    (leaf.along path).nesting = leaf.nesting + path.length := by
  induction path with
  | nil => rfl
  | cons step rest ih =>
    rw [along, nesting, membersNesting, membersNesting, ih, List.length_cons]
    omega

theorem every_along {holds : Value → Prop} (objects : ∀ step inner, holds (.object [(step, inner)]))
    (every : leaf.Every holds) (path : List String) : (leaf.along path).Every holds := by
  induction path with
  | nil => exact every
  | cons step rest ih => exact ⟨objects _ _, ih, trivial⟩

theorem readsAs_along {depth : Nat} (reads : ReadsAs depth True leaf) (path : List String) :
    ReadsAs (depth + path.length) True (leaf.along path) := by
  refine ⟨?_, every_along (fun _ _ => List.pairwise_singleton _ _) reads.sorted path,
    fun known => every_along (fun _ _ => trivial) (reads.whole known) path⟩
  rw [nesting_along]
  exact Nat.add_le_add_right reads.shallow _

/-- Another path leads to an object on the way to a text, or nowhere. -/
theorem follow?_along_string {text : String}
    (reached : ((Value.string text).along path).follow? other = some inner) :
    (other = path ∧ inner = .string text) ∨ ∃ members, inner = .object members := by
  induction path generalizing other with
  | nil =>
    cases other with
    | nil =>
      cases reached
      exact .inl ⟨rfl, rfl⟩
    | cons step rest => simp [along, follow?, step?] at reached
  | cons step rest ih =>
    cases other with
    | nil =>
      cases reached
      exact .inr ⟨_, rfl⟩
    | cons first others =>
      obtain ⟨next, stepped, followed⟩ := Option.bind_eq_some_iff.mp reached
      by_cases same : first = step
      · subst same
        have inside : (Value.string text).along rest = next := by
          simpa [along, step?, Entries.get?] using stepped
        rw [← inside] at followed
        rcases ih followed with ⟨rfl, rfl⟩ | found
        · exact .inl ⟨rfl, rfl⟩
        · exact .inr found
      · simp [along, step?, Entries.get?, same] at stepped

theorem render_object (members : List (String × Value)) :
    ∃ rest, (Value.object members).render.toList = '\x7b' :: rest := by
  refine ⟨commaSeparated (membersChars members) ++ ['\x7d'], ?_⟩
  simp [render, write, chars]

end Value

end FleetSearch.Json
