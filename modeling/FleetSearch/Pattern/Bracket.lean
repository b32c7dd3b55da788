import FleetSearch.Pattern.Escape

/-! Classes of characters in brackets: unions of characters, ranges and classes, with signs that
combine what stands on both sides. -/

namespace FleetSearch.Pattern

/-- A sign between two parts of a class. -/
inductive Operator where
  | intersection
  | difference
  | symmetricDifference

def Operator.apply (left right : Charset) : Operator → Charset
  | .intersection => .intersection left right
  | .difference => .difference left right
  | .symmetricDifference => .symmetricDifference left right

/-- A set with the number of brackets, unions and signs that stand inside one another in it. -/
structure DeepSet where
  set : Charset
  depth : Nat := 0

/-- A class being read: what stands before the last sign, and the parts behind it, the last one
first. -/
structure Bracket where
  negated : Bool
  before : Option (DeepSet × Operator) := none
  parts : List DeepSet := []

namespace Bracket

/-- The union of the parts behind the last sign. -/
def union (bracket : Bracket) : DeepSet :=
  match bracket.parts with
  | [] => { set := .empty }
  | [part] => part
  | parts =>
    { set := .unions (parts.map DeepSet.set).reverse
      depth := parts.foldl (fun depth part => max depth part.depth) 0 + 1 }

/-- All that has been read, as one set. Sides of a sign hold characters without regard to case
where the flags ask for it. -/
def combined (flags : Flags) (bracket : Bracket) : DeepSet :=
  let right := bracket.union
  match bracket.before with
  | none => right
  | some (left, operator) =>
    { set :=
        operator.apply (foldAndNegate flags false left.set) (foldAndNegate flags false right.set)
      depth := max left.depth right.depth + 1 }

def operator (flags : Flags) (bracket : Bracket) (sign : Operator) : Bracket :=
  { bracket with before := some (bracket.combined flags, sign), parts := [] }

def part (bracket : Bracket) (part : DeepSet) : Bracket :=
  { bracket with parts := part :: bracket.parts }

/-- The set of a class that is complete. -/
def finish? (flags : Flags) (bracket : Bracket) : Option DeepSet :=
  let inside := bracket.combined flags
  (foldAndNegate? flags bracket.negated inside.set).map fun set =>
    { set, depth := inside.depth + 1 }

end Bracket

/-- A class of ASCII between colons, behind the bracket that opens it, and whether it is negated. -/
def asciiClass? (rest : List Char) : Option (Charset × Bool × List Char) := do
  match rest with
  | ':' :: rest =>
    let (negated, rest) := match rest with
      | '^' :: rest => (true, rest)
      | _ => (false, rest)
    let (name, rest) ← Text.cutChars ':' rest
    match rest with
    | ']' :: rest =>
      let set ← asciiSet? (String.ofList name)
      some (set, negated, rest)
    | _ => none
  | _ => none

/-- One side of a range, or a class by escape. -/
def bracketAtom? [Dialect] (flags : Flags) : List Char → Option (Atom × List Char)
  | [] => none
  | '\\' :: rest => escape? flags rest
  | c :: rest => some (.character c, rest)

/-- A character, a range of them or a class by escape. Outside of Unicode mode classes hold no
character beyond ASCII. -/
def bracketPart? [Dialect] (flags : Flags) (rest : List Char) : Option (Charset × List Char) := do
  let (first, rest) ← bracketAtom? flags rest
  let rest := Cursor.skipped flags rest
  match rest with
  | [] => none
  | '-' :: behind =>
    match (Cursor.skipped flags behind).head? with
    | some ']' | some '-' => single flags first rest
    | none => none
    | some _ => do
      let (last, rest) ← bracketAtom? flags (Cursor.skipped flags behind)
      match first, last with
      | .character low, .character high =>
        if low ≤ high && flags.covers high then some (.range low high, rest) else none
      | _, _ => none
  | _ => single flags first rest
where
  /-- An atom that is no side of a range. -/
  single (flags : Flags) (atom : Atom) (rest : List Char) : Option (Charset × List Char) :=
    match atom with
    | .character c => if flags.covers c then some (.single c, rest) else none
    | .set set => some (set, rest)
    | .anchor _ => none

/-- The number of hyphens at the start, between which blanks and comments may not count. -/
def leadingHyphens (spaced inComment : Bool) (count : Nat) : List Char → Nat × List Char
  | [] => (count, [])
  | c :: rest =>
    if inComment then leadingHyphens spaced (c != '\n') count rest
    else if c == '-' then leadingHyphens spaced false (count + 1) rest
    else if spaced && Unicode.isBlank c then leadingHyphens spaced false count rest
    else if spaced && c == '#' then leadingHyphens spaced true count rest
    else (count, c :: rest)

/-- The start of a class behind its bracket: a caret negates it, and a closing bracket right at
the start stands for itself. -/
def bracketStart (flags : Flags) (rest : List Char) : Bracket × List Char :=
  let (negated, rest) := match Cursor.skipped flags rest with
    | '^' :: rest => (true, Cursor.skipped flags rest)
    | rest => (false, rest)
  let (hyphens, rest) := leadingHyphens flags.spaced false 0 rest
  if hyphens > 0 then ({ negated, parts := List.replicate hyphens ⟨.single '-', 0⟩ }, rest)
  else match rest with
    | ']' :: rest => ({ negated, parts := [⟨.single ']', 0⟩] }, Cursor.skipped flags rest)
    | _ => ({ negated }, rest)

/-- The class that is open, those around it, and the rest up to the end of the outermost one.
The fuel bounds the number of parts. -/
def bracketRest? [Dialect] (flags : Flags) (bracket : Bracket) (outer : List Bracket) :
    Nat → List Char → Option (DeepSet × List Char)
  | 0, _ => none
  | fuel + 1, rest =>
    match Cursor.skipped flags rest with
    | [] => none
    | '[' :: rest =>
      match asciiClass? rest with
      | some (set, negated, rest) => do
        let set ← foldAndNegate? flags negated set
        bracketRest? flags (bracket.part { set }) outer fuel rest
      | none =>
        let (inner, rest) := bracketStart flags rest
        bracketRest? flags inner (bracket :: outer) fuel rest
    | ']' :: rest => do
      let finished ← bracket.finish? flags
      match outer with
      | [] => some (finished, rest)
      | around :: outer => bracketRest? flags (around.part finished) outer fuel rest
    | '&' :: '&' :: rest =>
      bracketRest? flags (bracket.operator flags .intersection) outer fuel rest
    | '-' :: '-' :: rest =>
      bracketRest? flags (bracket.operator flags .difference) outer fuel rest
    | '~' :: '~' :: rest =>
      bracketRest? flags (bracket.operator flags .symmetricDifference) outer fuel rest
    | rest => do
      let (set, rest) ← bracketPart? flags rest
      bracketRest? flags (bracket.part { set }) outer fuel rest

/-- A class in brackets, behind the bracket that opens it. -/
def bracketClass? [Dialect] (flags : Flags) (rest : List Char) : Option (DeepSet × List Char) :=
  let (bracket, behind) := bracketStart flags rest
  bracketRest? flags bracket [] (behind.length + 1) behind

end FleetSearch.Pattern
