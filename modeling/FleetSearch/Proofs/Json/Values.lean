import FleetSearch.Json.Lookup
import FleetSearch.Json.Term
import FleetSearch.Proofs.Entries
import FleetSearch.Proofs.Json.Numerals

/-! What holds of a value and of all values inside it: whole numbers, members in the order of their
keys, and a bound on how deep it nests. A value that is read has it from its document. -/

namespace FleetSearch.Json

mutual

/-- Whether something holds of a value and of every value inside. -/
def Value.Every (holds : Value → Prop) : Value → Prop
  | .array items => holds (.array items) ∧ ItemsEvery holds items
  | .object members => holds (.object members) ∧ MembersEvery holds members
  | .null => holds .null
  | .bool value => holds (.bool value)
  | .number value => holds (.number value)
  | .string value => holds (.string value)

def ItemsEvery (holds : Value → Prop) : List Value → Prop
  | [] => True
  | item :: rest => item.Every holds ∧ ItemsEvery holds rest

def MembersEvery (holds : Value → Prop) : List (String × Value) → Prop
  | [] => True
  | (_, value) :: rest => value.Every holds ∧ MembersEvery holds rest

end

/-- Whether a number is whole; other values are no numbers. -/
def Value.IsWhole : Value → Prop
  | .number value => value.IsWhole
  | _ => True

/-- Whether members are in the order of their keys, each key once. -/
def Value.IsSorted : Value → Prop
  | .object members => Entries.Sorted members
  | _ => True

section Every

variable {holds : Value → Prop} {items : List Value} {members : List (String × Value)}

theorem itemsEvery_iff : ItemsEvery holds items ↔ ∀ item ∈ items, item.Every holds := by
  induction items with
  | nil => simp [ItemsEvery]
  | cons item rest ih => simp [ItemsEvery, ih]

theorem membersEvery_iff :
    MembersEvery holds members ↔ ∀ member ∈ members, member.2.Every holds := by
  induction members with
  | nil => simp [MembersEvery]
  | cons member rest ih =>
    obtain ⟨key, value⟩ := member
    simp [MembersEvery, ih]

theorem itemsNesting_le_iff {depth : Nat} :
    itemsNesting items ≤ depth ↔ ∀ item ∈ items, item.nesting ≤ depth := by
  induction items with
  | nil => simp [itemsNesting]
  | cons item rest ih => simp [itemsNesting, ih]

theorem membersNesting_le_iff {depth : Nat} :
    membersNesting members ≤ depth ↔ ∀ member ∈ members, member.2.nesting ≤ depth := by
  induction members with
  | nil => simp [membersNesting]
  | cons member rest ih =>
    obtain ⟨key, value⟩ := member
    simp [membersNesting, ih]

end Every

/-- Whether a value is within another one. -/
def Value.Within (inner value : Value) : Prop :=
  inner.nesting ≤ value.nesting ∧ ∀ holds, value.Every holds → inner.Every holds

theorem Value.Within.refl (value : Value) : value.Within value :=
  ⟨Nat.le_refl _, fun _ every => every⟩

theorem Value.Within.trans {inner middle value : Value} (first : inner.Within middle)
    (second : middle.Within value) : inner.Within value :=
  ⟨Nat.le_trans first.1 second.1, fun holds every => first.2 holds (second.2 holds every)⟩

theorem Value.item_within {item : Value} {items : List Value} (member : item ∈ items) :
    item.Within (.array items) ∧ item.nesting < (Value.array items).nesting := by
  have depth := itemsNesting_le_iff.mp (Nat.le_refl (itemsNesting items)) item member
  refine ⟨⟨?_, fun holds every => ?_⟩, ?_⟩
  · simp only [nesting]
    omega
  · exact itemsEvery_iff.mp every.2 item member
  · simp only [nesting]
    omega

theorem Value.member_within {key : String} {inner : Value} {members : List (String × Value)}
    (member : (key, inner) ∈ members) : inner.Within (.object members) := by
  have depth := membersNesting_le_iff.mp (Nat.le_refl (membersNesting members)) (key, inner) member
  refine ⟨?_, fun holds every => membersEvery_iff.mp every.2 (key, inner) member⟩
  simp only [nesting]
  exact Nat.le_succ_of_le depth

theorem Value.follow?_within {value inner : Value} {path : List String}
    (reached : value.follow? path = some inner) : inner.Within value := by
  induction path generalizing value with
  | nil =>
    cases reached
    exact .refl _
  | cons segment rest ih =>
    obtain ⟨next, stepped, followed⟩ := Option.bind_eq_some_iff.mp reached
    refine (ih followed).trans ?_
    unfold step? at stepped
    split at stepped
    · exact member_within (Entries.mem_of_get? stepped)
    · obtain ⟨place, _, found⟩ := Option.bind_eq_some_iff.mp stepped
      exact (item_within (List.mem_of_getElem? found)).1
    · cases stepped

theorem Value.lookup?_within {value inner : Value} {path : String}
    (reached : value.lookup? path = some inner) : inner.Within value := by
  unfold lookup? at reached
  split at reached
  · cases reached
    exact .refl _
  · exact follow?_within reached

mutual

/-- Whether all numbers of a document are whole. -/
def Term.IsWhole : Term → Prop
  | .number (some value) => value.IsWhole
  | .number none => False
  | .array items => ItemsWhole items
  | .object members => MembersWhole members
  | _ => True

def ItemsWhole : List Term → Prop
  | [] => True
  | item :: rest => item.IsWhole ∧ ItemsWhole rest

def MembersWhole : List (Option String × Term) → Prop
  | [] => True
  | (_, item) :: rest => item.IsWhole ∧ MembersWhole rest

end

/-- What is known of a value that was read: how deep it nests, and that it is in order; its numbers
are whole if those of the document are. -/
structure ReadsAs (depth : Nat) (whole : Prop) (value : Value) : Prop where
  shallow : value.nesting ≤ depth
  sorted : value.Every Value.IsSorted
  whole : whole → value.Every Value.IsWhole

theorem ReadsAs.imp {depth : Nat} {whole known : Prop} {value : Value}
    (reads : ReadsAs depth whole value) (enough : known → whole) : ReadsAs depth known value :=
  ⟨reads.shallow, reads.sorted, fun given => reads.whole (enough given)⟩

/-- A value within one that was read is as if it was read. -/
theorem ReadsAs.within {depth : Nat} {whole : Prop} {value inner : Value}
    (reads : ReadsAs depth whole value) (within : inner.Within value) :
    ReadsAs depth whole inner :=
  ⟨Nat.le_trans within.1 reads.shallow, within.2 _ reads.sorted,
    fun known => within.2 _ (reads.whole known)⟩

theorem ReadsAs.array {depth : Nat} {whole : Prop} {items : List Value}
    (reads : ∀ item ∈ items, ReadsAs depth whole item) :
    ReadsAs (depth + 1) whole (.array items) :=
  ⟨Nat.succ_le_succ (itemsNesting_le_iff.mpr fun item member => (reads item member).shallow),
    ⟨trivial, itemsEvery_iff.mpr fun item member => (reads item member).sorted⟩,
    fun known => ⟨trivial, itemsEvery_iff.mpr fun item member => (reads item member).whole known⟩⟩

/-- An object of members that were read, of which the last one with a key counts. -/
private theorem readsAs_ofMembers {depth : Nat} {whole : Prop} {members : List (String × Value)}
    (reads : ∀ member ∈ members, ReadsAs depth whole member.2) :
    ReadsAs (depth + 1) whole (Value.ofMembers members) := by
  have kept (member : String × Value) (present : member ∈ Entries.ofPairs members) :=
    reads member (Entries.mem_of_mem_ofPairs present)
  refine ⟨?_, ⟨Entries.sorted_ofPairs members, ?_⟩, fun known => ⟨trivial, ?_⟩⟩
  · simp only [Value.ofMembers, Value.nesting]
    exact Nat.succ_le_succ (membersNesting_le_iff.mpr fun member present =>
      (kept member present).shallow)
  · exact membersEvery_iff.mpr fun member present => (kept member present).sorted
  · exact membersEvery_iff.mpr fun member present => (kept member present).whole known

mutual

theorem Term.readsAs {depth : Nat} : ∀ {term : Term} {value : Value},
    term.value? depth = some value → ReadsAs depth term.IsWhole value
  | .null, value, read => by
    cases read
    exact ⟨Nat.zero_le _, trivial, fun _ => trivial⟩
  | .bool flag, value, read => by
    cases read
    exact ⟨Nat.zero_le _, trivial, fun _ => trivial⟩
  | .number number, value, read => by
    obtain ⟨number, rfl, rfl⟩ := Option.map_eq_some_iff.mp read
    exact ⟨Nat.zero_le _, trivial, fun whole => whole⟩
  | .string text, value, read => by
    obtain ⟨text, rfl, rfl⟩ := Option.map_eq_some_iff.mp read
    exact ⟨Nat.zero_le _, trivial, fun _ => trivial⟩
  | .array items, value, read => by
    cases depth with
    | zero => cases read
    | succ depth =>
      obtain ⟨values, inner, rfl⟩ := Option.map_eq_some_iff.mp read
      have reads := items_readAs inner
      refine ⟨?_, ⟨trivial, ?_⟩, fun whole => ⟨trivial, ?_⟩⟩
      · simp only [Value.nesting]
        exact Nat.succ_le_succ (itemsNesting_le_iff.mpr fun item member =>
          (reads item member).shallow)
      · exact itemsEvery_iff.mpr fun item member => (reads item member).sorted
      · exact itemsEvery_iff.mpr fun item member => (reads item member).whole whole
  | .object members, value, read => by
    cases depth with
    | zero => cases read
    | succ depth =>
      obtain ⟨values, inner, rfl⟩ := Option.map_eq_some_iff.mp read
      exact readsAs_ofMembers (members_readAs inner)

theorem items_readAs {depth : Nat} : ∀ {items : List Term} {values : List Value},
    itemValues? depth items = some values →
      ∀ value ∈ values, ReadsAs depth (ItemsWhole items) value
  | [], values, read => by
    cases read
    simp
  | item :: rest, values, read => by
    obtain ⟨value, first, read⟩ := Option.bind_eq_some_iff.mp read
    obtain ⟨others, second, read⟩ := Option.bind_eq_some_iff.mp read
    cases read
    intro inner member
    rcases List.mem_cons.mp member with rfl | member
    · exact (Term.readsAs first).imp And.left
    · exact (items_readAs second inner member).imp And.right

theorem members_readAs {depth : Nat} :
    ∀ {members : List (Option String × Term)} {values : List (String × Value)},
    memberValues? depth members = some values →
      ∀ value ∈ values, ReadsAs depth (MembersWhole members) value.2
  | [], values, read => by
    cases read
    simp
  | (key, item) :: rest, values, read => by
    obtain ⟨name, named, read⟩ := Option.bind_eq_some_iff.mp read
    obtain ⟨value, first, read⟩ := Option.bind_eq_some_iff.mp read
    obtain ⟨others, second, read⟩ := Option.bind_eq_some_iff.mp read
    cases read
    intro inner member
    rcases List.mem_cons.mp member with rfl | member
    · exact (Term.readsAs first).imp And.left
    · exact (members_readAs second inner member).imp And.right

end

mutual

/-- The document of a value is read as the value, unless it nests too deep. -/
theorem Value.value?_ofValue (depth : Nat) : ∀ {value : Value}, value.Every Value.IsSorted →
    (Term.ofValue value).value? depth = if value.nesting ≤ depth then some value else none
  | .null, _ => rfl
  | .bool _, _ => rfl
  | .number _, _ => rfl
  | .string _, _ => rfl
  | .array items, sorted => by
    cases depth with
    | zero => simp [Term.ofValue, Term.value?, Value.nesting]
    | succ depth =>
      simp only [Term.ofValue, Term.value?, itemValues?_itemTerms depth sorted.2, Value.nesting,
        Nat.add_le_add_iff_right]
      split <;> rfl
  | .object members, sorted => by
    cases depth with
    | zero => simp [Term.ofValue, Term.value?, Value.nesting]
    | succ depth =>
      have same : Value.ofMembers members = .object members :=
        congrArg Value.object (Entries.ofPairs_of_sorted sorted.1)
      simp only [Term.ofValue, Term.value?, memberValues?_memberTerms depth sorted.2, Value.nesting,
        Nat.add_le_add_iff_right]
      split
      · exact congrArg some same
      · rfl

theorem itemValues?_itemTerms (depth : Nat) : ∀ {items : List Value},
    ItemsEvery Value.IsSorted items → itemValues? depth (itemTerms items) =
      if itemsNesting items ≤ depth then some items else none
  | [], _ => by simp [itemTerms, itemValues?, itemsNesting]
  | item :: rest, sorted => by
    simp only [itemTerms, itemValues?, Value.value?_ofValue depth sorted.1,
      itemValues?_itemTerms depth sorted.2, itemsNesting, Nat.max_le]
    by_cases first : item.nesting ≤ depth <;> by_cases others : itemsNesting rest ≤ depth <;>
      simp [first, others]

theorem memberValues?_memberTerms (depth : Nat) : ∀ {members : List (String × Value)},
    MembersEvery Value.IsSorted members → memberValues? depth (memberTerms members) =
      if membersNesting members ≤ depth then some members else none
  | [], _ => by simp [memberTerms, memberValues?, membersNesting]
  | (key, value) :: rest, sorted => by
    simp only [memberTerms, memberValues?, Value.value?_ofValue depth sorted.1,
      memberValues?_memberTerms depth sorted.2, membersNesting, Nat.max_le]
    by_cases first : value.nesting ≤ depth <;> by_cases others : membersNesting rest ≤ depth <;>
      simp [first, others]

end

mutual

theorem Value.isWhole_ofValue : ∀ {value : Value}, value.Every Value.IsWhole →
    (Term.ofValue value).IsWhole
  | .null, _ => trivial
  | .bool _, _ => trivial
  | .number _, whole => whole
  | .string _, _ => trivial
  | .array _, whole => isWhole_itemTerms whole.2
  | .object _, whole => isWhole_memberTerms whole.2

theorem isWhole_itemTerms : ∀ {items : List Value}, ItemsEvery Value.IsWhole items →
    ItemsWhole (itemTerms items)
  | [], _ => trivial
  | _ :: _, whole => ⟨Value.isWhole_ofValue whole.1, isWhole_itemTerms whole.2⟩

theorem isWhole_memberTerms : ∀ {members : List (String × Value)},
    MembersEvery Value.IsWhole members → MembersWhole (memberTerms members)
  | [], _ => trivial
  | (_, _) :: _, whole => ⟨Value.isWhole_ofValue whole.1, isWhole_memberTerms whole.2⟩

end

end FleetSearch.Json
