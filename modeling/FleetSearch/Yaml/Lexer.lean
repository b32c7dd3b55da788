import FleetSearch.Yaml.Token

/-! Cutting a document into tokens. A key of a mapping may be recognised only at the colon behind
it, so the lexer remembers for each level of brackets where a key could have begun. -/

namespace FleetSearch.Yaml

/-- A place where a key without a question mark may have begun. -/
structure KeyStart where
  position : Nat
  index : Nat
  line : Nat
  column : Nat
  required : Bool

/-- The longest key without a question mark, in characters. -/
def maxKeyLength : Nat := 1024

/-- Whether a possible key is too long, or ended with its line. -/
def KeyStart.isStale (start : KeyStart) (spot : Spot) : Bool :=
  start.line < spot.line || start.index + maxKeyLength < spot.index

/-- The lexer between two tokens. -/
structure Lexer where
  rest : List Spot
  /-- The tokens so far, the last one first. -/
  tokens : List Token := []
  count : Nat := 0
  /-- The column of the innermost block collection, or minus one. -/
  indent : Int := -1
  outerIndents : List Int := []
  keyStart : Option KeyStart := none
  outerKeyStarts : List (Option KeyStart) := []
  keyAllowed : Bool := true

namespace Lexer

def inFlow (lexer : Lexer) : Bool := !lexer.outerKeyStarts.isEmpty

def column (lexer : Lexer) : Nat :=
  match lexer.rest with
  | spot :: _ => spot.column
  | [] => 0

def emit (lexer : Lexer) (token : Token) : Lexer :=
  { lexer with tokens := token :: lexer.tokens, count := lexer.count + 1 }

def emitAt (lexer : Lexer) (position : Nat) (token : Token) : Lexer :=
  let behind := lexer.count - position
  { lexer with
    tokens := lexer.tokens.take behind ++ token :: lexer.tokens.drop behind
    count := lexer.count + 1 }

def emitOver (lexer : Lexer) (token : Token) (length : Nat) : Lexer :=
  { lexer.emit token with rest := lexer.rest.drop length }

/-- The text behind blanks, comments and ends of lines, and whether a line ended. A tab does not
count as a blank where a key may begin. -/
def skipGapFrom (inFlow keyAllowed : Bool) (inComment : Bool) : List Spot → List Spot × Bool
  | [] => ([], keyAllowed)
  | spot :: rest =>
    if inComment && !isBreakOrEnd spot.char then skipGapFrom inFlow keyAllowed true rest
    else if isBreak spot.char then skipGapFrom inFlow (keyAllowed || !inFlow) false rest
    else if spot.char == ' ' || (spot.char == '\t' && (inFlow || !keyAllowed)) ||
        (spot.char == '\ufeff' && spot.index == 0) then
      skipGapFrom inFlow keyAllowed false rest
    else if spot.char == '#' then skipGapFrom inFlow keyAllowed true rest
    else (spot :: rest, keyAllowed)

def skipGap (lexer : Lexer) : Lexer :=
  let (rest, keyAllowed) := skipGapFrom lexer.inFlow lexer.keyAllowed false lexer.rest
  { lexer with rest, keyAllowed }

/-- A possible key after a check; a required one must not be stale. -/
def checkKeyStart? (spots : List Spot) : Option KeyStart → Option (Option KeyStart)
  | none => some none
  | some start =>
    match spots with
    | [] => some (some start)
    | spot :: _ =>
      if start.isStale spot then if start.required then none else some none
      else some (some start)

def dropStale? (lexer : Lexer) : Option Lexer := do
  let keyStart ← checkKeyStart? lexer.rest lexer.keyStart
  let outerKeyStarts ← lexer.outerKeyStarts.mapM (checkKeyStart? lexer.rest)
  some { lexer with keyStart, outerKeyStarts }

/-- Forgets the possible key on the innermost level, which must not be required. -/
def dropKey? (lexer : Lexer) : Option Lexer :=
  match lexer.keyStart with
  | some start => if start.required then none else some { lexer with keyStart := none }
  | none => some lexer

def saveKey? (lexer : Lexer) : Option Lexer :=
  if lexer.keyAllowed then do
    let lexer ← lexer.dropKey?
    match lexer.rest with
    | spot :: _ =>
      some { lexer with
        keyStart := some
          { position := lexer.count, index := spot.index, line := spot.line, column := spot.column
            required := !lexer.inFlow && lexer.indent == spot.column } }
    | [] => some lexer
  else some lexer

/-- Ends the block collections that stand right of a column, given those around them. -/
def unrollFrom (column : Int) (lexer : Lexer) : List Int → Lexer
  | [] => lexer
  | outer :: outers =>
    if column < lexer.indent then
      unrollFrom column { lexer.emit .blockEnd with indent := outer, outerIndents := outers } outers
    else lexer

def unroll (lexer : Lexer) (column : Int) : Lexer :=
  if lexer.inFlow then lexer else unrollFrom column lexer lexer.outerIndents

/-- Begins a block collection at a column right of the innermost one. Its token stands before
the tokens from a position on. -/
def roll (lexer : Lexer) (column : Nat) (position : Nat) (token : Token) : Lexer :=
  if !lexer.inFlow && decide (lexer.indent < (column : Int)) then
    { lexer.emitAt position token with
      indent := column
      outerIndents := lexer.indent :: lexer.outerIndents }
  else lexer

def allowKey (lexer : Lexer) (allowed : Bool) : Lexer :=
  { lexer with keyAllowed := allowed }

/-- Ends all block collections, as at the start or end of a document. -/
def closeBlocks? (lexer : Lexer) : Option Lexer := do
  some ((← (lexer.unroll (-1)).dropKey?).allowKey false)

def openFlow? (lexer : Lexer) (token : Token) : Option Lexer := do
  let lexer ← lexer.saveKey?
  some { (lexer.emitOver token 1).allowKey true with
    keyStart := none
    outerKeyStarts := lexer.keyStart :: lexer.outerKeyStarts }

def closeFlow? (lexer : Lexer) (token : Token) : Option Lexer := do
  let lexer := ((← lexer.dropKey?).emitOver token 1).allowKey false
  match lexer.outerKeyStarts with
  | outer :: outers => some { lexer with keyStart := outer, outerKeyStarts := outers }
  | [] => some lexer

/-- A sign that starts a part of a block collection, outside of brackets only where a key may
begin. -/
def startEntry? (lexer : Lexer) (collection : Token) : Option Lexer :=
  if lexer.inFlow then some lexer
  else if lexer.keyAllowed then some (lexer.roll lexer.column lexer.count collection)
  else none

def blockEntry? (lexer : Lexer) : Option Lexer := do
  let lexer ← (← lexer.startEntry? .blockSequenceStart).dropKey?
  some ((lexer.emitOver .blockEntry 1).allowKey true)

def key? (lexer : Lexer) : Option Lexer := do
  let lexer ← (← lexer.startEntry? .blockMappingStart).dropKey?
  some ((lexer.emitOver .key 1).allowKey !lexer.inFlow)

/-- The colon of a value; the key before it may turn out only now. -/
def value? (lexer : Lexer) : Option Lexer :=
  match lexer.keyStart with
  | some start =>
    let keyed := lexer.emitAt start.position .key
    let lexer := keyed.roll start.column start.position .blockMappingStart
    some ({ lexer.emitOver .value 1 with keyStart := none }.allowKey false)
  | none => do
    let lexer ← lexer.startEntry? .blockMappingStart
    some ((lexer.emitOver .value 1).allowKey !lexer.inFlow)

/-- A token that can be part of a key, with the text behind it. -/
def emitInKey? (lexer : Lexer) (read : Option (Token × List Spot)) : Option Lexer := do
  let lexer ← lexer.saveKey?
  let (token, rest) ← read
  some { (lexer.emit token).allowKey false with rest }

/-- A scalar of several lines, indented behind its sign. -/
def block? (lexer : Lexer) (style : Style) : Option Lexer := do
  let lexer ← lexer.dropKey?
  let (text, rest) ← blockScalar? (style == .literal) lexer.indent (lexer.rest.drop 1)
  some { (lexer.emit (.scalar style (String.ofList text))).allowKey true with rest }

def quoted? (lexer : Lexer) (style : Style) : Option Lexer :=
  lexer.emitInKey? do
    let (text, rest) ← quotedFrom (style == .singleQuoted) [] {} (lexer.rest.drop 1)
    some (.scalar style (String.ofList text.reverse), rest)

/-- A scalar without quotes. -/
def plain? (lexer : Lexer) : Option Lexer := do
  let lexer ← lexer.saveKey?
  let (text, broken, rest) ← plainFrom lexer.inFlow (lexer.indent + 1) [] {} lexer.rest
  some { (lexer.emit (.scalar .plain (String.ofList text.reverse))).allowKey broken with rest }

/-- The signs with which no plain scalar starts. -/
def indicators : List Char :=
  ['-', '?', ':', ',', '[', ']', '\x7b', '\x7d', '#', '&', '*', '!', '|', '>', '\'', '"', '%',
    '@', '\x60']

def startsPlain (inFlow : Bool) (c next : Char) : Bool :=
  !(isGap c || indicators.contains c) || (c == '-' && !isBlank next) ||
    (!inFlow && (c == '?' || c == ':') && !isGap next)

/-- Reads the next token at a character that is not the end. -/
def token? (lexer : Lexer) (c : Char) : Option Lexer :=
  let next := charAt 1 lexer.rest
  let spaced := lexer.inFlow || isGap next
  if lexer.column == 0 && c == '%' then do
    let lexer ← lexer.closeBlocks?
    let (token, rest) ← Token.directive? lexer.rest
    some { lexer.emit token with rest }
  else if isDocumentMark documentStartMark lexer.rest then do
    some ((← lexer.closeBlocks?).emitOver .documentStart 3)
  else if isDocumentMark documentEndMark lexer.rest then do
    some ((← lexer.closeBlocks?).emitOver .documentEnd 3)
  else if c == '[' then lexer.openFlow? .flowSequenceStart
  else if c == '\x7b' then lexer.openFlow? .flowMappingStart
  else if c == ']' then lexer.closeFlow? .flowSequenceEnd
  else if c == '\x7d' then lexer.closeFlow? .flowMappingEnd
  else if c == ',' then do
    some (((← lexer.dropKey?).emitOver .flowEntry 1).allowKey true)
  else if c == '-' && isGap next then lexer.blockEntry?
  else if c == '?' && spaced then lexer.key?
  else if c == ':' && spaced then lexer.value?
  else if c == '*' then
    let found := Token.name? (lexer.rest.drop 1)
    lexer.emitInKey? (found.map fun (name, rest) => (.aliasOf name, rest))
  else if c == '&' then
    let found := Token.name? (lexer.rest.drop 1)
    lexer.emitInKey? (found.map fun (name, rest) => (.anchor name, rest))
  else if c == '!' then lexer.emitInKey? (Token.tag? lexer.inFlow lexer.rest)
  else if c == '|' && !lexer.inFlow then lexer.block? .literal
  else if c == '>' && !lexer.inFlow then lexer.block? .folded
  else if c == '\'' then lexer.quoted? .singleQuoted
  else if c == '"' then lexer.quoted? .doubleQuoted
  else if startsPlain lexer.inFlow c next then lexer.plain?
  else none

/-- Reads all tokens; every round reads at least one character. -/
def run : Nat → Lexer → Option Lexer
  | 0, _ => none
  | fuel + 1, lexer => do
    let lexer ← lexer.skipGap.dropStale?
    let lexer := lexer.unroll lexer.column
    let c := charAt 0 lexer.rest
    if c == endMark then some ((← lexer.closeBlocks?).emit .streamEnd)
    else run fuel (← lexer.token? c)

end Lexer

def Token.ofText? (text : String) : Option (List Token) := do
  let rest ← spots? text
  let lexer ← Lexer.run (rest.length + 1) { rest }
  some lexer.tokens.reverse

end FleetSearch.Yaml
