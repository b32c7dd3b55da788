import FleetSearch.Yaml.Lexer

/-! Documents as trees. An alias names the anchored node by number; the tree itself is finite even
where a node contains an alias of itself. -/

namespace FleetSearch.Yaml

inductive Node where
  | scalar (tag : Option String) (style : Style) (text : String)
  | aliasOf (target : Nat)
  | sequence (tag : Option String) (items : List Node)
  | mapping (tag : Option String) (pairs : List (Node × Node))
deriving Repr, Inhabited

structure Document where
  /-- The node of the document; a text without content has none. -/
  root : Option Node
  targets : List (Nat × Node) := []
  events : Nat := 0

namespace Node

def empty : Node := .scalar none .plain ""

/-- The state of a tree being built from tokens. -/
structure Builder where
  tokens : List Token
  handles : List (String × String) := []
  anchors : List (String × Nat) := []
  /-- The place in the order of all anchored nodes that a number stands for, the last first. -/
  places : List (Nat × Nat) := []
  built : List (Nat × Node) := []
  anchored : Nat := 0
  events : Nat := 0

abbrev Build := StateT Builder Option

def peek : Build Token := do
  match (← get).tokens with
  | token :: _ => pure token
  | [] => failure

def skip : Build Unit :=
  modify fun builder => { builder with tokens := builder.tokens.drop 1 }

def count : Build Unit :=
  modify fun builder => { builder with events := builder.events + 1 }

def fullTag (handle suffix : String) : Build String := do
  if handle = "" then pure suffix
  else match (← get).handles.lookup handle with
    | some start => pure (start ++ suffix)
    | none => failure

/-- The number for an anchor. A name used again takes the count of names, so a number may come
to stand for a later node. -/
def anchorNumber (name : String) : Build Nat := do
  let builder ← get
  let number := builder.anchors.length
  let others := builder.anchors.filter fun entry => entry.1 != name
  set { builder with
    anchors := (name, number) :: others
    places := (number, builder.anchored) :: builder.places
    anchored := builder.anchored + 1 }
  pure builder.anchored

def enter (anchor : Option String) : Build (Option Nat) := do
  count
  match anchor with
  | some name => some <$> anchorNumber name
  | none => pure none

def leave (place : Option Nat) (node : Node) : Build Node := do
  match place with
  | some place => modify fun builder => { builder with built := (place, node) :: builder.built }
  | none => pure ()
  pure node

def omitted : Build Node := do
  count
  pure empty

/-- The anchor and the tag before a node, in either order. -/
def properties : Build (Option String × Option String) := do
  match ← peek with
  | .anchor name => do
    skip
    match ← peek with
    | .tag handle suffix => do
      skip
      pure (some name, some (← fullTag handle suffix))
    | _ => pure (some name, none)
  | .tag handle suffix => do
    skip
    match ← peek with
    | .anchor name => do
      skip
      pure (some name, some (← fullTag handle suffix))
    | _ => pure (none, some (← fullTag handle suffix))
  | _ => pure (none, none)

def aliasNamed (name : String) : Build Node := do
  match (← get).anchors.lookup name with
  | some number => do
    skip
    count
    pure (.aliasOf number)
  | none => failure

def endsBlockPart : Token → Bool
  | .key | .value | .blockEnd => true
  | _ => false

def endsBlockItem : Token → Bool
  | .blockEntry | .blockEnd => true
  | _ => false

/-- Whether an item of a sequence without indentation of its own is omitted before this token. -/
def endsLooseItem : Token → Bool
  | .blockEntry | .key | .value | .blockEnd => true
  | _ => false

mutual

/-- A node. Block collections are only allowed in some places, and a sequence without indentation
of its own only as a part of a block mapping. The fuel bounds how many parts are read one inside
or behind another. -/
def build (inBlock loose : Bool) : Nat → Build Node
  | 0 => failure
  | fuel + 1 => do
    match ← peek with
    | .aliasOf name => aliasNamed name
    | _ => do
      let (anchor, tag) ← properties
      match ← peek with
      | .blockEntry =>
        if loose then do
          let place ← enter anchor
          let items ← looseItems fuel
          leave place (.sequence tag items)
        else bare anchor tag
      | .scalar style text => do
        let place ← enter anchor
        skip
        leave place (.scalar (if tag = some "!" then none else tag) style text)
      | .flowSequenceStart => do
        let place ← enter anchor
        skip
        let items ← flowItems true fuel
        leave place (.sequence tag items)
      | .flowMappingStart => do
        let place ← enter anchor
        skip
        let pairs ← flowPairs true fuel
        leave place (.mapping tag pairs)
      | .blockSequenceStart =>
        if inBlock then do
          let place ← enter anchor
          skip
          let items ← blockItems fuel
          leave place (.sequence tag items)
        else bare anchor tag
      | .blockMappingStart =>
        if inBlock then do
          let place ← enter anchor
          skip
          let pairs ← blockPairs fuel
          leave place (.mapping tag pairs)
        else bare anchor tag
      | _ => bare anchor tag

def bare (anchor tag : Option String) : Build Node := do
  if anchor.isNone && tag.isNone then failure
  else do
    let place ← enter anchor
    leave place (.scalar tag .plain "")

def blockItems : Nat → Build (List Node)
  | 0 => failure
  | fuel + 1 => do
    match ← peek with
    | .blockEntry => do
      skip
      let item ← if endsBlockItem (← peek) then omitted else build true false fuel
      let items ← blockItems fuel
      pure (item :: items)
    | .blockEnd => do
      skip
      count
      pure []
    | _ => failure

/-- The items of a sequence without indentation of its own. -/
def looseItems : Nat → Build (List Node)
  | 0 => failure
  | fuel + 1 => do
    match ← peek with
    | .blockEntry => do
      skip
      let item ← if endsLooseItem (← peek) then omitted else build true false fuel
      let items ← looseItems fuel
      pure (item :: items)
    | _ => do
      count
      pure []

def blockPart : Nat → Build Node
  | 0 => failure
  | fuel + 1 => do if endsBlockPart (← peek) then omitted else build true true fuel

def blockPairs : Nat → Build (List (Node × Node))
  | 0 => failure
  | fuel + 1 => do
    match ← peek with
    | .key => do
      skip
      let key ← blockPart fuel
      let value ← blockValue fuel
      let pairs ← blockPairs fuel
      pure ((key, value) :: pairs)
    | .blockEnd => do
      skip
      count
      pure []
    | _ => failure

def blockValue : Nat → Build Node
  | 0 => failure
  | fuel + 1 => do
    match ← peek with
    | .value => do
      skip
      blockPart fuel
    | _ => omitted

def flowItems (first : Bool) : Nat → Build (List Node)
  | 0 => failure
  | fuel + 1 => do
    if !first && (← peek) != .flowSequenceEnd then
      match ← peek with
      | .flowEntry => skip
      | _ => failure
    match ← peek with
    | .flowSequenceEnd => do
      skip
      count
      pure []
    | .key => do
      skip
      let item ← flowPair fuel
      let items ← flowItems false fuel
      pure (item :: items)
    | _ => do
      let item ← build false false fuel
      let items ← flowItems false fuel
      pure (item :: items)

/-- A mapping of one pair inside a sequence in brackets. Where its key is omitted, the token
behind the question mark is lost. -/
def flowPair : Nat → Build Node
  | 0 => failure
  | fuel + 1 => do
    count
    let key ← match ← peek with
      | .value | .flowEntry | .flowSequenceEnd => do
        skip
        omitted
      | _ => build false false fuel
    let value ← match ← peek with
      | .value => do
        skip
        match ← peek with
        | .flowEntry | .flowSequenceEnd => omitted
        | _ => build false false fuel
      | _ => omitted
    count
    pure (.mapping none [(key, value)])

def flowPairs (first : Bool) : Nat → Build (List (Node × Node))
  | 0 => failure
  | fuel + 1 => do
    if !first && (← peek) != .flowMappingEnd then
      match ← peek with
      | .flowEntry => skip
      | _ => failure
    match ← peek with
    | .flowMappingEnd => do
      skip
      count
      pure []
    | .key => do
      skip
      let key ← match ← peek with
        | .value | .flowEntry | .flowMappingEnd => omitted
        | _ => build false false fuel
      let value ← match ← peek with
        | .value => do
          skip
          match ← peek with
          | .flowEntry | .flowMappingEnd => omitted
          | _ => build false false fuel
        | _ => omitted
      let pairs ← flowPairs false fuel
      pure ((key, value) :: pairs)
    | _ => do
      let key ← build false false fuel
      let value ← omitted
      let pairs ← flowPairs false fuel
      pure ((key, value) :: pairs)

end

/-- The handles that need no directive. -/
def standardHandles : List (String × String) :=
  [("!", "!"), ("!!", "tag:yaml.org,2002:")]

/-- The directives before a document: at most one version, which has to be 1.1 or 1.2, and no
handle twice. -/
def directives (versionSeen : Bool) : Nat → Build Unit
  | 0 => failure
  | fuel + 1 => do
    match ← peek with
    | .version major minor =>
      if versionSeen || major != 1 || (minor != 1 && minor != 2) then failure
      else do
        skip
        directives true fuel
    | .tagDirective handle start => do
      if ((← get).handles.lookup handle).isSome then failure
      else do
        modify fun builder => { builder with handles := builder.handles ++ [(handle, start)] }
        skip
        directives versionSeen fuel
    | _ => modify fun builder => { builder with handles := builder.handles ++ standardHandles }

/-- Whether a document without content ends before this token. -/
def endsDocument : Token → Bool
  | .version .. | .tagDirective .. | .documentStart | .documentEnd | .streamEnd => true
  | _ => false

/-- The only document of a text. -/
def document (fuel : Nat) : Build (Option Node) := do
  let root ← match ← peek with
    | .streamEnd => pure none
    | .version .. | .tagDirective .. | .documentStart => do
      directives false fuel
      match ← peek with
      | .documentStart => do
        skip
        if endsDocument (← peek) then some <$> omitted else some <$> build true false fuel
      | _ => failure
    | _ => do
      directives false fuel
      some <$> build true false fuel
  let rest := (← get).tokens.dropWhile (· == .documentEnd)
  if rest == [.streamEnd] then pure root else failure

end Node

/-- The document that a whole text spells; `none` where the text has more than one. -/
def Document.ofText? (text : String) : Option Document := do
  let tokens ← Token.ofText? text
  let (root, builder) ← (Node.document (4 * tokens.length + 4)).run { tokens }
  let targets := builder.places.filterMap fun (number, place) =>
    (builder.built.lookup place).map fun node => (number, node)
  some { root, targets, events := builder.events }

end FleetSearch.Yaml
