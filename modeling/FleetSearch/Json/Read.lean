import FleetSearch.Json.Literal
import FleetSearch.Json.Term
import FleetSearch.Text.Digits

/-! The grammar of JSON text. -/

namespace FleetSearch.Json

def isGap (c : Char) : Bool :=
  c == ' ' || c == '\n' || c == '\t' || c == '\r'

def skipGap (chars : List Char) : List Char :=
  chars.dropWhile isGap

def isDigit (c : Char) : Bool :=
  '0' ≤ c && c ≤ '9'

/-- A part of a string: a character, or one unit of sixteen bits given by number. -/
inductive Piece where
  | char (value : Char)
  | unit (code : Nat)

def unitCode? (a b c d : Char) : Option Nat :=
  Text.natural? 16 [a, b, c, d]

def escaped? : Char → Option Char
  | '"' => some '"'
  | '\\' => some '\\'
  | '/' => some '/'
  | 'b' => some '\x08'
  | 'f' => some '\x0c'
  | 'n' => some '\n'
  | 'r' => some '\r'
  | 't' => some '\t'
  | _ => none

/-- The parts of a string up to its closing quote, and the text behind it. -/
def pieces? : List Char → Option (List Piece × List Char)
  | [] => none
  | '"' :: rest => some ([], rest)
  | '\\' :: 'u' :: a :: b :: c :: d :: rest => do
    let code ← unitCode? a b c d
    let (pieces, rest) ← pieces? rest
    some (.unit code :: pieces, rest)
  | '\\' :: c :: rest => do
    let value ← escaped? c
    let (pieces, rest) ← pieces? rest
    some (.char value :: pieces, rest)
  | c :: rest =>
    if c.toNat < 32 then none
    else do
      let (pieces, rest) ← pieces? rest
      some (.char c :: pieces, rest)

/-- The first half of a surrogate pair. -/
def isHighHalf (code : Nat) : Bool := 0xd800 ≤ code && code < 0xdc00

def isLowHalf (code : Nat) : Bool := 0xdc00 ≤ code && code < 0xe000

/-- The characters of a string; halves of surrogate pairs have to come in pairs. -/
def characters? : List Piece → Option (List Char)
  | [] => some []
  | .char c :: rest => (characters? rest).map (c :: ·)
  | .unit high :: .unit low :: rest =>
    if isHighHalf high then
      if isLowHalf low then
        let code := 0x10000 + (high - 0xd800) * 0x400 + (low - 0xdc00)
        (characters? rest).map (Char.ofNat code :: ·)
      else none
    else if isLowHalf high then none
    else (characters? (.unit low :: rest)).map (Char.ofNat high :: ·)
  | .unit code :: rest =>
    if isHighHalf code || isLowHalf code then none
    else (characters? rest).map (Char.ofNat code :: ·)

def text? (chars : List Char) : Option (Option String × List Char) := do
  let (pieces, rest) ← pieces? chars
  some ((characters? pieces).map String.ofList, rest)

/-- At least one digit, and the text behind the digits. -/
def digits? (chars : List Char) : Option (List Char × List Char) :=
  match chars.span isDigit with
  | ([], _) => none
  | (digits, rest) => some (digits, rest)

/-- The digits before the point: no zero leads another digit. -/
def wholePart? : List Char → Option (List Char × List Char)
  | '0' :: c :: rest => if isDigit c then none else some (['0'], c :: rest)
  | chars => digits? chars

/-- The point with its digits, if there is one. -/
def fractionPart? : List Char → Option (Option (List Char) × List Char)
  | '.' :: rest => do
    let (digits, rest) ← digits? rest
    some (some digits, rest)
  | chars => some (none, chars)

/-- The exponent with its sign, if there is one. -/
def exponentPart? : List Char → Option (Option (Bool × List Char) × List Char)
  | c :: rest =>
    if c = 'e' ∨ c = 'E' then do
      let (below, rest) := match rest with
        | '-' :: rest => (true, rest)
        | '+' :: rest => (false, rest)
        | _ => (false, rest)
      let (digits, rest) ← digits? rest
      some (some (below, digits), rest)
    else some (none, c :: rest)
  | [] => some (none, [])

/-- A number, behind its sign. -/
def literal? (negative : Bool) (chars : List Char) : Option (Literal × List Char) := do
  let (whole, rest) ← wholePart? chars
  let (fraction, rest) ← fractionPart? rest
  let (exponent, rest) ← exponentPart? rest
  some ({ negative, whole, fraction, exponent }, rest)

mutual

/-- A document at the start of the text, and the text behind it. The fuel bounds the number of
documents and members read one inside or behind another. -/
def term? : Nat → List Char → Option (Term × List Char)
  | 0, _ => none
  | fuel + 1, chars =>
    match skipGap chars with
    | 'n' :: 'u' :: 'l' :: 'l' :: rest => some (.null, rest)
    | 't' :: 'r' :: 'u' :: 'e' :: rest => some (.bool true, rest)
    | 'f' :: 'a' :: 'l' :: 's' :: 'e' :: rest => some (.bool false, rest)
    | '"' :: rest => do
      let (text, rest) ← text? rest
      some (.string text, rest)
    | '[' :: rest =>
      match skipGap rest with
      | ']' :: rest => some (.array [], rest)
      | rest => do
        let (items, rest) ← items? fuel rest
        some (.array items, rest)
    | '\x7b' :: rest =>
      match skipGap rest with
      | '\x7d' :: rest => some (.object [], rest)
      | rest => do
        let (members, rest) ← members? fuel rest
        some (.object members, rest)
    | '-' :: rest => do
      let (literal, rest) ← literal? true rest
      some (.number literal.number?, rest)
    | rest => do
      let (literal, rest) ← literal? false rest
      some (.number literal.number?, rest)

def items? : Nat → List Char → Option (List Term × List Char)
  | 0, _ => none
  | fuel + 1, chars => do
    let (item, rest) ← term? fuel chars
    match skipGap rest with
    | ',' :: rest => do
      let (items, rest) ← items? fuel rest
      some (item :: items, rest)
    | ']' :: rest => some ([item], rest)
    | _ => none

def members? : Nat → List Char → Option (List (Option String × Term) × List Char)
  | 0, _ => none
  | fuel + 1, chars =>
    match skipGap chars with
    | '"' :: rest => do
      let (key, rest) ← text? rest
      match skipGap rest with
      | ':' :: rest => do
        let (item, rest) ← term? fuel rest
        match skipGap rest with
        | ',' :: rest => do
          let (members, rest) ← members? fuel rest
          some ((key, item) :: members, rest)
        | '\x7d' :: rest => some ([(key, item)], rest)
        | _ => none
      | _ => none
    | _ => none

end

/-- The document that a whole text spells. -/
def Term.read? (text : String) : Option Term := do
  let chars := text.toList
  let (term, rest) ← term? (chars.length + 1) chars
  if (skipGap rest).isEmpty then some term else none

/-- The value that a whole text spells. -/
def Value.read? (text : String) : Option Value := do
  (← Term.read? text).value? depthLimit

end FleetSearch.Json
