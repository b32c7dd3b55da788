import FleetSearch.Text.Digits
import FleetSearch.Yaml.Spot

/-! The text of scalars in each of the ways of writing them: how lines are folded, which escapes
stand for what, and where a scalar ends. -/

namespace FleetSearch.Yaml

/-- The blanks and line breaks between two parts of a scalar. Behind a break, blanks do not
count. -/
structure Pause where
  /-- Blanks before any break, the last one first. -/
  blanks : List Char := []
  broken : Bool := false
  /-- The first break; an escaped one leaves nothing. -/
  first : List Char := []
  /-- Further breaks, the last one first. -/
  further : List Char := []

namespace Pause

/-- Whether there is no pause. -/
def isEmpty (pause : Pause) : Bool := pause.blanks.isEmpty && !pause.broken

def blank (pause : Pause) (c : Char) : Pause :=
  if pause.broken then pause else { pause with blanks := c :: pause.blanks }

def lineBreak (pause : Pause) (c : Char) : Pause :=
  if pause.broken then { pause with further := c :: pause.further }
  else { broken := true, first := [c] }

/-- What stands for the pause, reversed: a single break becomes a space, more of them lose the
first. -/
def folded (pause : Pause) : List Char :=
  if pause.broken then
    if pause.first = ['\n'] then if pause.further.isEmpty then [' '] else pause.further
    else pause.further ++ pause.first
  else pause.blanks

end Pause

/-- A plain scalar from inside it: its text reversed, whether a line ended behind it, and what
follows. Behind a pause it ends at a comment, at a mark of a document, or outside of brackets at
a place left of `indent`. -/
def plainFrom (inFlow : Bool) (indent : Int) (text : List Char) (pause : Pause) :
    List Spot → Option (List Char × Bool × List Spot)
  | [] => some (text, pause.broken, [])
  | spot :: rest =>
    let c := spot.char
    if isBlank c then
      if pause.broken && decide ((spot.column : Int) < indent) && c == '\t' then none
      else plainFrom inFlow indent text (pause.blank c) rest
    else if isBreak c then plainFrom inFlow indent text (pause.lineBreak c) rest
    else if c == endMark then some (text, pause.broken, spot :: rest)
    else if !pause.isEmpty && ((!inFlow && decide ((spot.column : Int) < indent)) || c == '#' ||
        isAnyDocumentMark (spot :: rest)) then
      some (text, pause.broken, spot :: rest)
    else if inFlow && c == ':' && [',', '?', '[', ']', '\x7b', '\x7d'].contains (charAt 0 rest) then
      none
    else if (c == ':' && isGap (charAt 0 rest)) ||
        (inFlow && [',', '[', ']', '\x7b', '\x7d'].contains c) then
      some (text, pause.broken, spot :: rest)
    else plainFrom inFlow indent (c :: pause.folded ++ text) {} rest

def escaped? : Char → Option Char
  | '0' => some '\x00'
  | 'a' => some '\x07'
  | 'b' => some '\x08'
  | 't' => some '\t'
  | '\t' => some '\t'
  | 'n' => some '\n'
  | 'v' => some '\x0b'
  | 'f' => some '\x0c'
  | 'r' => some '\r'
  | 'e' => some '\x1b'
  | ' ' => some ' '
  | '"' => some '"'
  | '/' => some '/'
  | '\\' => some '\\'
  | 'N' => some '\u0085'
  | '_' => some '\u00a0'
  | 'L' => some '\u2028'
  | 'P' => some '\u2029'
  | _ => none

def coded? (digits : List Spot) : Option Char := do
  let code ← Text.natural? 16 (digits.map Spot.char)
  if code < 0xd800 ∨ (0xdfff < code ∧ code ≤ 0x10ffff) then some (Char.ofNat code) else none

/-- A quoted scalar behind its opening quote: its text reversed, and what follows the closing
quote. Between single quotes only the quote itself can be written in another way, as two of it. -/
def quotedFrom (single : Bool) (text : List Char) (pause : Pause) :
    List Spot → Option (List Char × List Spot)
  | [] => none
  | spot :: rest =>
    let c := spot.char
    let before := pause.folded ++ text
    if isBlank c then quotedFrom single text (pause.blank c) rest
    else if isBreak c then quotedFrom single text (pause.lineBreak c) rest
    else if c == endMark || isAnyDocumentMark (spot :: rest) then none
    else if single then
      if c != '\'' then quotedFrom single (c :: before) {} rest
      else
        match rest with
        | [] => none
        | second :: behind =>
          if second.char == '\'' then quotedFrom single (c :: before) {} behind
          else some (before, rest)
    else if c == '"' then some (before, rest)
    else if c != '\\' then quotedFrom single (c :: before) {} rest
    else
      match rest with
      | [] => none
      | sign :: behind =>
        if isBreak sign.char then quotedFrom single before { broken := true } behind
        else if sign.char == 'x' then
          match behind with
          | a :: b :: behind =>
            match coded? [a, b] with
            | some c => quotedFrom single (c :: before) {} behind
            | none => none
          | _ => none
        else if sign.char == 'u' then
          match behind with
          | a :: b :: c :: d :: behind =>
            match coded? [a, b, c, d] with
            | some c => quotedFrom single (c :: before) {} behind
            | none => none
          | _ => none
        else if sign.char == 'U' then
          match behind with
          | a :: b :: c :: d :: e :: f :: g :: h :: behind =>
            match coded? [a, b, c, d, e, f, g, h] with
            | some c => quotedFrom single (c :: before) {} behind
            | none => none
          | _ => none
        else
          match escaped? sign.char with
          | some c => quotedFrom single (c :: before) {} behind
          | none => none

/-- The header of a block scalar: which breaks at its end count, and its indentation if given. -/
structure BlockHeader where
  /-- `+` keeps all breaks at the end and `-` none; without either one break is kept. -/
  chomping : Option Char := none
  increment : Option Nat := none

/-- The indentation that a digit of a header gives; zero is none. -/
def increment? (c : Char) : Option Nat :=
  if '1' ≤ c ∧ c ≤ '9' then some (c.toNat - 48) else none

def isChomping (c : Char) : Bool := c == '+' || c == '-'

def blockHeader? : List Spot → Option (BlockHeader × List Spot)
  | [] => none
  | first :: rest =>
    if isChomping first.char then
      match rest with
      | second :: rest' =>
        if second.char.isDigit then
          (increment? second.char).map fun n => (⟨some first.char, some n⟩, rest')
        else some (⟨some first.char, none⟩, rest)
      | [] => some (⟨some first.char, none⟩, rest)
    else if first.char.isDigit then do
      let n ← increment? first.char
      match rest with
      | second :: rest' =>
        if isChomping second.char then some (⟨some second.char, some n⟩, rest')
        else some (⟨none, some n⟩, rest)
      | [] => some (⟨none, some n⟩, rest)
    else some ({}, first :: rest)

/-- What follows blanks, an optional comment and the end of the line; `none` where more stands on
the line. -/
def lineRest? (spots : List Spot) : Option (List Spot) :=
  let rest := spots.dropWhile fun spot => isBlank spot.char
  let rest :=
    if charAt 0 rest == '#' then rest.dropWhile fun spot => !isBreakOrEnd spot.char else rest
  match rest with
  | spot :: behind =>
    if isBreak spot.char then some behind
    else if spot.char == endMark then some rest
    else none
  | [] => some []

/-- Empty lines and indentation before a line of a block scalar: the breaks reversed, the
rightmost place reached, and what follows. An indentation of zero is not known yet. -/
def blockBreaks (indent : Nat) (breaks : List Char) (reached : Nat) :
    List Spot → Option (List Char × Nat × List Spot)
  | [] => some (breaks, reached, [])
  | spot :: rest =>
    let inside := indent = 0 ∨ spot.column < indent
    if inside ∧ spot.char = ' ' then blockBreaks indent breaks reached rest
    else
      let reached := max reached spot.column
      if inside ∧ spot.char = '\t' then none
      else if isBreak spot.char then blockBreaks indent (spot.char :: breaks) reached rest
      else some (breaks, reached, spot :: rest)

/-- What has been read of a block scalar: its text, the break of its last line and the empty
lines behind it, all reversed, and whether that line started with a blank. -/
structure Block where
  text : List Char := []
  lastBreak : List Char := []
  trailing : List Char := []
  blankStart : Bool := false

namespace Block

/-- The text up to a new line. In folded style the break between two lines that do not start
with a blank becomes a space, or nothing if empty lines follow it. -/
def joined (block : Block) (literal blankStart : Bool) : List Char :=
  let break_ :=
    if !literal && block.lastBreak == ['\n'] && !block.blankStart && !blankStart then
      if block.trailing.isEmpty then [' '] else []
    else block.lastBreak
  block.trailing ++ break_ ++ block.text

/-- The text of a finished scalar, reversed. -/
def finished (block : Block) (chomping : Option Char) : List Char :=
  match chomping with
  | some '-' => block.text
  | some _ => block.trailing ++ block.lastBreak ++ block.text
  | none => block.lastBreak ++ block.text

end Block

/-- The lines of a block scalar, and what follows them. -/
def blockLines (literal : Bool) (indent : Nat) (block : Block) :
    Nat → List Spot → Option (Block × List Spot)
  | 0, spots => some (block, spots)
  | fuel + 1, spots =>
    match spots with
    | [] => some (block, [])
    | spot :: _ =>
      if spot.column ≠ indent ∨ spot.char = endMark then some (block, spots)
      else do
        let blankStart := isBlank spot.char
        let (line, rest) := spots.span fun spot => !isBreakOrEnd spot.char
        let text := (line.map Spot.char).reverse ++ block.joined literal blankStart
        let (lastBreak, rest) := match rest with
          | next :: behind => if isBreak next.char then ([next.char], behind) else ([], rest)
          | [] => ([], [])
        let (trailing, _, rest) ← blockBreaks indent [] 0 rest
        blockLines literal indent { text, lastBreak, trailing, blankStart } fuel rest

/-- A block scalar behind its sign, inside a collection that stands at `parent`: its text and
what follows. -/
def blockScalar? (literal : Bool) (parent : Int) (spots : List Spot) :
    Option (List Char × List Spot) := do
  let (header, rest) ← blockHeader? spots
  let rest ← lineRest? rest
  let given := match header.increment with
    | some n => (max parent 0).toNat + n
    | none => 0
  let (breaks, reached, rest) ← blockBreaks given [] 0 rest
  let indent := if given = 0 then max reached (max (parent + 1) 1).toNat else given
  let (block, rest) ← blockLines literal indent { trailing := breaks } rest.length rest
  some ((block.finished header.chomping).reverse, rest)

end FleetSearch.Yaml
