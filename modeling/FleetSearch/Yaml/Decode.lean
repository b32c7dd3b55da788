import FleetSearch.Yaml.Node
import FleetSearch.Yaml.Plain
import FleetSearch.Yaml.Value

/-! Typed reading of documents. Reading follows aliases a bounded number of times in all, and
nested collections to a bounded depth. -/

namespace FleetSearch.Yaml

/-- What readers share: the nodes that aliases stand for, and how many aliases may still be
followed. -/
abbrev Decode (α : Type) := ReaderT (List (Nat × Node)) (StateT Nat Option) α

namespace Decode

def depthLimit : Nat := 128

def aliasesPerEvent : Nat := 100

/-- The node itself, or the one that an alias stands for. -/
def follow : Node → Decode Node
  | .aliasOf number => do
    match (← get), (← read).lookup number with
    | left + 1, some node => do
      set left
      pure node
    | _, _ => failure
  | node => pure node

def coreTag (name : String) : String := "tag:yaml.org,2002:" ++ name

/-- The text of a scalar, however it is written. -/
def text (node : Node) : Decode String := do
  match ← follow node with
  | .scalar _ _ text => pure text
  | _ => failure

/-- Whether a scalar can be read as a value of a core type: plain ones, and literal ones with the
tag of the type. -/
def isTyped (type : String) (tag : Option String) : Style → Bool
  | .plain => true
  | .literal => tag == some (coreTag type)
  | _ => false

def typed {α : Type} (type : String) (parse : String → Option α) (node : Node) : Decode α := do
  match ← follow node with
  | .scalar tag style text =>
    match parse text with
    | some value => if isTyped type tag style then pure value else failure
    | none => failure
  | _ => failure

def bool : Node → Decode Bool := typed "bool" Plain.bool?

/-- A whole number below a bound. -/
def below (bound : Nat) : Node → Decode Nat :=
  typed "int" fun text => do
    let value ← Plain.natural? text.toList
    if value < bound then some value else none

def float : Node → Decode Decimal.Binary64 := typed "float" Plain.float?

/-- A text, or null. -/
def optionalText (node : Node) : Decode (Option String) := do
  match ← follow node with
  | .scalar tag .plain text =>
    if tag = some (coreTag "null") then if Plain.isNull text then pure none else failure
    else if tag.isNone && (text = "" || Plain.isNull text) then pure none
    else pure (some text)
  | .scalar _ _ text => pure (some text)
  | _ => failure

/-- The pairs of a mapping; an omitted node has none. -/
def pairs (node : Node) : Decode (List (Node × Node)) := do
  match ← follow node with
  | .mapping _ pairs => pure pairs
  | .scalar _ .plain "" => pure []
  | _ => failure

/-- The nodes under some names in a mapping. No name may occur twice; other keys are ignored. -/
def fields (names : List String) (node : Node) : Decode (List (Option Node)) := do
  let named ← (← pairs node).mapM fun (key, value) => do pure (← text key, value)
  names.mapM fun name =>
    match named.filter fun entry => entry.1 = name with
    | [] => pure none
    | [(_, value)] => pure (some value)
    | _ => failure

def withDefault {α : Type} (decode : Node → Decode α) (default : α) : Option Node → Decode α
  | some node => decode node
  | none => pure default

def isCustomTag (tag : Option String) : Bool :=
  match tag with
  | some name => name.startsWith "!"
  | none => false

/-- The value of a plain scalar; wide whole numbers have none. -/
def ofPlain (text : String) : Option Value :=
  match Plain.ofText text with
  | .null => some .null
  | .bool value => some (.bool value)
  | .integer value => some (.integer value)
  | .wideInteger => none
  | .float value => some (.float value)
  | .text => some (.string text)

def scalarValue? (tag : Option String) (style : Style) (text : String) : Option Value :=
  match tag with
  | none => if style = .plain then ofPlain text else some (.string text)
  | some name =>
    if name = coreTag "bool" then (Plain.bool? text).map .bool
    else if name = coreTag "int" then
      match Plain.integer? text with
      | some (.integer value) => some (.integer value)
      | _ => none
    else if name = coreTag "float" then (Plain.float? text).map .float
    else if name = coreTag "null" then if Plain.isNull text then some .null else none
    else some (.string text)

/-- Whether no key occurs twice. -/
def hasDistinctKeys : List (Value × Value) → Bool
  | [] => true
  | (key, _) :: rest => !rest.any (fun pair => pair.1 == key) && hasDistinctKeys rest

/-- Any value without made-up tags, nested at most `depth` levels. -/
def value : Nat → Node → Decode Value
  | 0, node => do
    match ← follow node with
    | .scalar tag style text =>
      if isCustomTag tag then failure
      else match scalarValue? tag style text with
        | some found => pure found
        | none => failure
    | _ => failure
  | depth + 1, node => do
    match ← follow node with
    | .scalar tag style text =>
      if isCustomTag tag then failure
      else match scalarValue? tag style text with
        | some found => pure found
        | none => failure
    | .sequence tag items =>
      if isCustomTag tag then failure
      else .sequence <$> items.mapM (value depth)
    | .mapping tag pairs =>
      if isCustomTag tag then failure
      else do
        let pairs ← pairs.mapM fun (key, item) => do
          pure (← value depth key, ← value depth item)
        if hasDistinctKeys pairs then pure (.mapping pairs) else failure
    | .aliasOf _ => failure

/-- Reads a whole document; one without content reads as an omitted node. -/
def document {α : Type} (decode : Node → Decode α) (document : Document) : Option α :=
  let root := document.root.getD .empty
  (((decode root).run document.targets).run (document.events * aliasesPerEvent)).map Prod.fst

end Decode

end FleetSearch.Yaml
