import Mathlib.Data.List.Forall2
import FleetSearch.Yaml.Decode

/-! What a document says: the texts that names lead to, where an alias stands for its target. A
reader of a record takes each part from there, and gives the default where the document says
nothing. -/

namespace FleetSearch.Yaml

namespace Node

variable {targets : List (Nat × Node)}

/-- The node itself, or the one that an alias stands for. -/
def resolved? (targets : List (Nat × Node)) : Node → Option Node
  | .aliasOf number => targets.lookup number
  | node => some node

/-- The text of a scalar. -/
def text? : Node → Option String
  | .scalar _ _ text => some text
  | _ => none

/-- Whether a node is a scalar with this text. -/
def Spells (targets : List (Nat × Node)) (node : Node) (text : String) : Prop :=
  (node.resolved? targets).bind text? = some text

/-- The pairs of a mapping; other nodes have none. -/
def entries (targets : List (Nat × Node)) (node : Node) : List (Node × Node) :=
  match node.resolved? targets with
  | some (.mapping _ pairs) => pairs
  | _ => []

/-- Whether a node is under a name in a mapping. -/
def Has (targets : List (Nat × Node)) (node : Node) (name : String) (value : Node) : Prop :=
  ∃ key, (key, value) ∈ node.entries targets ∧ key.Spells targets name

/-- Whether names lead to this text, one inside the other. -/
def Says (targets : List (Nat × Node)) (text : String) (node : Node) : List String → Prop
  | [] => node.Spells targets text
  | name :: rest => ∃ pair ∈ node.entries targets,
      pair.1.Spells targets name ∧ pair.2.Says targets text rest

instance (node : Node) (text : String) : Decidable (node.Spells targets text) :=
  inferInstanceAs (Decidable (_ = _))

instance decidableSays (text : String) :
    (path : List String) → (node : Node) → Decidable (node.Says targets text path)
  | [], node => inferInstanceAs (Decidable (node.Spells targets text))
  | name :: rest, node =>
    have := decidableSays text rest
    inferInstanceAs (Decidable (∃ pair ∈ node.entries targets,
      pair.1.Spells targets name ∧ pair.2.Says targets text rest))

theorem Spells.unique {node : Node} {text other : String} (first : node.Spells targets text)
    (second : node.Spells targets other) : text = other :=
  Option.some.inj (first.symm.trans second)

theorem spells_of_resolved {node : Node} {tag : Option String} {style : Style} {text : String}
    (resolved : node.resolved? targets = some (.scalar tag style text)) :
    node.Spells targets text := by
  rw [Spells, resolved]
  rfl

end Node

namespace Decode

variable {α β : Type} {targets : List (Nat × Node)} {property : α → Prop} {premise : β → Prop}
  {node : Node}

/-- Whether all that can be read has a property, where aliases stand for these targets. -/
def Gives (targets : List (Nat × Node)) (decode : Decode α) (property : α → Prop) : Prop :=
  ∀ left value rest, (decode.run targets).run left = some (value, rest) → property value

theorem gives_any (targets : List (Nat × Node)) (decode : Decode α) :
    Gives targets decode fun _ => True :=
  fun _ _ _ _ => trivial

theorem Gives.pure {value : α} (holds : property value) : Gives targets (pure value) property := by
  intro left found rest ran
  cases ran
  exact holds

theorem Gives.failure : Gives targets failure property := by
  intro left found rest ran
  cases ran

theorem Gives.bind {decode : Decode β} {next : β → Decode α} (first : Gives targets decode premise)
    (each : ∀ value, premise value → Gives targets (next value) property) :
    Gives targets (decode >>= next) property := by
  intro left found rest ran
  rw [ReaderT.run_bind, StateT.run_bind] at ran
  obtain ⟨⟨value, middle⟩, read, ran⟩ := Option.bind_eq_some_iff.mp ran
  exact each value (first left value middle read) middle found rest ran

theorem Gives.last (decode : Decode β) {next : β → Decode α}
    (each : ∀ value, Gives targets (next value) property) :
    Gives targets (decode >>= next) property :=
  (gives_any targets decode).bind fun value _ => each value

theorem Gives.mapM {read : β → Decode α} {related : β → α → Prop}
    (each : ∀ item, Gives targets (read item) (related item)) (items : List β) :
    Gives targets (items.mapM read) (List.Forall₂ related items) := by
  induction items with
  | nil => exact .pure .nil
  | cons item rest ih =>
    rw [List.mapM_cons]
    refine (each item).bind fun value first => ih.bind fun values others => .pure ?_
    exact .cons first others

theorem gives_targets (targets : List (Nat × Node)) :
    Gives targets (read : Decode (List (Nat × Node))) (· = targets) := by
  intro left found rest ran
  cases ran
  rfl

theorem gives_follow (node : Node) :
    Gives targets (follow node) fun found => node.resolved? targets = some found := by
  cases node with
  | aliasOf number =>
    refine .last _ fun left => (gives_targets targets).bind fun known same => ?_
    subst same
    split
    · rename_i found
      exact .last _ fun _ => .pure found
    · exact .failure
  | scalar => exact .pure rfl
  | sequence => exact .pure rfl
  | mapping => exact .pure rfl

theorem gives_text (node : Node) : Gives targets (text node) (node.Spells targets) := by
  refine (gives_follow node).bind fun found resolved => ?_
  split
  · exact .pure (Node.spells_of_resolved resolved)
  · exact .failure

theorem gives_pairs (node : Node) :
    Gives targets (pairs node) fun pairs => pairs = node.entries targets := by
  refine (gives_follow node).bind fun found resolved => ?_
  split
  · refine .pure ?_
    rw [Node.entries, resolved]
  · refine .pure ?_
    rw [Node.entries, resolved]
  · exact .failure

/-- Whether a value is what all texts stand for that are said, or else the default. -/
def Governs (targets : List (Nat × Node)) (node : Node) (path : List String)
    (parse : String → Option α) (default value : α) : Prop :=
  (∀ text, node.Says targets text path → parse text = some value) ∧
    ((∀ text, ¬ node.Says targets text path) → value = default)

/-- A value that is governed fails a check that the default passes only where a text that is said
stands for a value that fails it. -/
theorem Governs.fails_iff {path : List String} {parse : String → Option α} {default value : α}
    (governs : Governs targets node path parse default value) (Fails : α → Prop)
    (passes : ¬ Fails default) :
    Fails value ↔ ∃ text parsed, node.Says targets text path ∧ parse text = some parsed ∧
      Fails parsed := by
  obtain ⟨present, missing⟩ := governs
  constructor
  · intro fails
    by_cases told : ∃ text, node.Says targets text path
    · obtain ⟨text, said⟩ := told
      exact ⟨text, value, said, present text said, fails⟩
    · have same := missing fun text said => told ⟨text, said⟩
      exact absurd (same ▸ fails) passes
  · rintro ⟨text, parsed, said, spelled, fails⟩
    obtain rfl := Option.some.inj (spelled.symm.trans (present text said))
    exact fails

theorem gives_typed {type : String} {parse : String → Option α} (default : α) (node : Node) :
    Gives targets (typed type parse node) (Governs targets node [] parse default) := by
  refine (gives_follow node).bind fun found resolved => ?_
  split
  · rename_i text
    have spells : node.Spells targets text := Node.spells_of_resolved resolved
    split
    · rename_i value parsed
      split
      · refine .pure ⟨fun other said => ?_, fun nothing => absurd spells (nothing text)⟩
        rwa [Node.Spells.unique said spells]
      · exact .failure
    · exact .failure
  · exact .failure

/-- The whole number below a bound that a text stands for. -/
def bounded? (bound : Nat) (text : String) : Option Nat := do
  let value ← Plain.natural? text.toList
  if value < bound then some value else none

/-- Whether a node is the only one under a name, or there is none. -/
def Field (targets : List (Nat × Node)) (node : Node) (name : String) (found : Option Node) :
    Prop :=
  ∀ value, node.Has targets name value ↔ found = some value

/-- Whether an entry is a pair with the text of its key. -/
def Named (targets : List (Nat × Node)) (pair : Node × Node) (entry : String × Node) : Prop :=
  pair.1.Spells targets entry.1 ∧ entry.2 = pair.2

theorem mem_named_iff {pairs : List (Node × Node)} {named : List (String × Node)} {name : String}
    {value : Node} (read : List.Forall₂ (Named targets) pairs named) :
    (name, value) ∈ named ↔ ∃ key, (key, value) ∈ pairs ∧ key.Spells targets name := by
  induction read with
  | nil => simp
  | @cons pair entry pairs named first others ih =>
    obtain ⟨key, held⟩ := pair
    obtain ⟨text, same⟩ := entry
    obtain ⟨spells, rfl⟩ : key.Spells targets text ∧ same = held := first
    rw [List.mem_cons, ih]
    constructor
    · rintro (here | ⟨other, member, spelled⟩)
      · cases here
        exact ⟨key, List.mem_cons_self, spells⟩
      · exact ⟨other, List.mem_cons_of_mem _ member, spelled⟩
    · rintro ⟨other, member, spelled⟩
      rcases List.mem_cons.mp member with here | later
      · cases here
        exact .inl (by rw [spelled.unique spells])
      · exact .inr ⟨other, later, spelled⟩

theorem gives_fields (names : List String) (node : Node) :
    Gives targets (fields names node) (List.Forall₂ (Field targets node) names) := by
  refine (gives_pairs node).bind fun pairs same => ?_
  subst same
  -- A key can be an alias, so names are compared with the texts that the keys stand for.
  have each (pair : Node × Node) : Gives targets
      (do let key ← text pair.1; pure (key, pair.2)) (Named targets pair) :=
    (gives_text pair.1).bind fun key spells => .pure ⟨spells, rfl⟩
  refine (Gives.mapM each (node.entries targets)).bind fun named read =>
    Gives.mapM (fun name => ?_) names
  have member (value : Node) : node.Has targets name value ↔
      (name, value) ∈ named.filter fun entry => entry.1 = name := by
    rw [List.mem_filter, mem_named_iff read]
    simp [Node.Has]
  unfold Field
  split
  · rename_i none
    refine .pure fun value => ?_
    simp [member, none]
  · rename_i other found one
    refine .pure fun value => ?_
    have named : other = name := by
      have held : (other, found) ∈ named.filter fun entry => entry.1 = name := by
        rw [one]
        exact List.mem_singleton_self _
      simpa using (List.mem_filter.mp held).2
    rw [member, one, List.mem_singleton, named]
    simp [eq_comm]
  · exact .failure

/-- A part of a record is governed by what is said of it in the record. -/
theorem gives_withDefault {decode : Node → Decode β} {part : β → α} {fallback : β} {default : α}
    {parse : String → Option α} {name : String} {path : List String} {found : Option Node}
    (each : ∀ inner, Gives targets (decode inner) fun value =>
      Governs targets inner path parse default (part value))
    (absent : part fallback = default) (field : Field targets node name found) :
    Gives targets (withDefault decode fallback found) fun value =>
      Governs targets node (name :: path) parse default (part value) := by
  cases found with
  | none =>
    refine .pure ⟨?_, fun _ => absent⟩
    rintro text ⟨⟨key, inner⟩, member, spells, _⟩
    cases (field inner).mp ⟨key, member, spells⟩
  | some inner =>
    obtain ⟨key, member, spells⟩ : node.Has targets name inner := (field inner).mpr rfl
    intro left value rest ran
    obtain ⟨present, missing⟩ := each inner left value rest ran
    refine ⟨?_, fun nothing => missing fun text said => ?_⟩
    · rintro text ⟨⟨other, found⟩, among, named, said⟩
      cases (field found).mp ⟨other, among, named⟩
      exact present text said
    · exact nothing text ⟨(key, inner), member, spells, said⟩

theorem gives_part {type : String} {parse : String → Option α} {name : String} {default : α}
    {found : Option Node} (field : Field targets node name found) :
    Gives targets (withDefault (typed type parse) default found)
      (Governs targets node [name] parse default) :=
  gives_withDefault (gives_typed default) rfl field

end Decode

/-- Whether a document says a text where names lead to. -/
def Document.Says (document : Document) (path : List String) (text : String) : Prop :=
  (document.root.getD .empty).Says document.targets text path

instance (document : Document) (path : List String) (text : String) :
    Decidable (document.Says path text) :=
  Node.decidableSays text path _

/-- What readers of nodes give, they give of the node of a document. -/
theorem Decode.Gives.of_document {β : Type} {decode : Node → Decode β}
    {property : Node → β → Prop} {document : Document} {value : β}
    (each : ∀ node, Gives document.targets (decode node) (property node))
    (read : Decode.document decode document = some value) :
    property (document.root.getD .empty) value := by
  obtain ⟨⟨found, rest⟩, ran, rfl⟩ := Option.map_eq_some_iff.mp read
  exact each _ _ _ _ ran

end FleetSearch.Yaml
