import FleetSearch.Pattern.Bracket

/-! Reading of patterns. -/

namespace FleetSearch.Pattern

/-- An expression with the number of rows, choices, groups, repetitions and classes that stand
inside one another in it. -/
structure DeepRegex where
  regex : Regex
  depth : Nat := 0

namespace DeepRegex

/-- An expression one step deeper, as in a group. -/
def nested (body : DeepRegex) : DeepRegex :=
  { body with depth := body.depth + 1 }

def repeated (least : Nat) (most : Option Nat) (body : DeepRegex) : DeepRegex :=
  { regex := .repetition body.regex least most, depth := body.depth + 1 }

/-- An alternative behind those before it, which are counted as one choice when all are there. -/
def besides (before : Option DeepRegex) (last : DeepRegex) : DeepRegex :=
  match before with
  | some left => { regex := .choice left.regex last.regex, depth := max left.depth last.depth }
  | none => last

end DeepRegex

/-- The parts of one alternative, the last one first; a change of flags is a part that matches
the empty text and cannot be repeated. -/
abbrev Parts := List (Option DeepRegex)

namespace Parts

/-- How deep the parts reach. A part alone makes no row. -/
def depth (parts : Parts) : Nat :=
  let deepest := parts.foldl (fun depth part => max depth ((part.map DeepRegex.depth).getD 0)) 0
  if parts.length ≤ 1 then deepest else deepest + 1

def row (parts : Parts) : DeepRegex :=
  let regex := match (parts.filterMap id).map DeepRegex.regex with
    | [] => .empty
    | last :: before => before.foldl (fun behind part => .sequence part behind) last
  { regex, depth := parts.depth }

/-- The last part with the given number of repetitions. -/
def repeated? (least : Nat) (most : Option Nat) : Parts → Option Parts
  | some last :: before => some (some (last.repeated least most) :: before)
  | _ => none

def plain (parts : Parts) (regex : Regex) : Parts :=
  some { regex } :: parts

end Parts

def setFlag? (value : Bool) (flags : Flags) : Char → Option Flags
  | 'i' => some { flags with anyCase := value }
  | 'm' => some { flags with multiLine := value }
  | 's' => some { flags with dotAll := value }
  | 'R' => some { flags with crlf := value }
  | 'u' => some { flags with unicode := value }
  | 'x' => some { flags with spaced := value }
  | 'U' => some flags
  | _ => none

/-- Flags up to a colon or closing parenthesis, each letter at most once; behind a hyphen they are
taken away. The result tells whether there were any. -/
def flagLetters? (flags : Flags) (seen : List Char) (value afterHyphen : Bool) :
    List Char → Option (Flags × Bool × List Char)
  | [] => none
  | c :: rest =>
    if c = ':' ∨ c = ')' then
      if afterHyphen then none else some (flags, !seen.isEmpty, c :: rest)
    else if c = '-' then
      if value then flagLetters? flags seen false true rest else none
    else if seen.contains c then none
    else
      match setFlag? value flags c with
      | some flags => flagLetters? flags (c :: seen) value false rest
      | none => none

def groupName? (rest : List Char) : Option (String × List Char) := do
  let (name, rest) ← Text.cutChars '>' rest
  match name with
  | [] => none
  | first :: others =>
    let isOther := fun (c : Char) =>
      c == '_' || c == '.' || c == '[' || c == ']' || Unicode.isAlphanumeric c
    if (first == '_' || Unicode.isAlphabetic first) && others.all isOther then
      some (String.ofList name, rest)
    else none

/-- What follows an opening parenthesis. -/
inductive Opening where
  | flags (flags : Flags)
  | group (flags : Flags) (name : Option String)

/-- Whether the text starts with a sign that looks around, which patterns cannot. -/
def looksAround (rest : List Char) : Bool :=
  ['?', '='].isPrefixOf rest || ['?', '!'].isPrefixOf rest || ['?', '<', '='].isPrefixOf rest ||
    ['?', '<', '!'].isPrefixOf rest

def opening? (cursor : Cursor) : Option (Opening × Cursor) :=
  let cursor := cursor.skipSpace
  let named := fun rest => do
    let (name, rest) ← groupName? rest
    if cursor.names.contains name then none
    else
      let cursor := { cursor with rest, names := name :: cursor.names }
      some (Opening.group cursor.flags (some name), cursor)
  if looksAround cursor.rest then none
  else
    match cursor.rest with
    | '?' :: 'P' :: '<' :: rest => named rest
    | '?' :: '<' :: rest => named rest
    | '?' :: rest => do
      let (flags, any, rest) ← flagLetters? cursor.flags [] true false rest
      match rest with
      | ':' :: rest => some (.group flags none, { cursor with rest })
      | _ :: rest => if any then some (.flags flags, { cursor with rest }) else none
      | [] => none
    | _ => some (.group cursor.flags none, cursor)

/-- Blanks of any kind, which never count inside of counts. -/
def skipBlanks (rest : List Char) : List Char := rest.dropWhile Unicode.isBlank

def countLimit : Nat := Nat.pow 2 32

/-- The digits at the start, between which blanks and comments may not count. -/
def leadingDigits (spaced inComment : Bool) : List Char → List Char × List Char
  | [] => ([], [])
  | c :: rest =>
    if inComment then leadingDigits spaced (c != '\n') rest
    else if c.isDigit then
      let (digits, rest) := leadingDigits spaced false rest
      (c :: digits, rest)
    else if spaced && Unicode.isBlank c then leadingDigits spaced false rest
    else if spaced && c == '#' then leadingDigits spaced true rest
    else ([], c :: rest)

def countNumber? (flags : Flags) (rest : List Char) : Option (Nat × List Char) := do
  let (digits, rest) := leadingDigits flags.spaced false (skipBlanks rest)
  let value ← Text.natural? 10 digits
  if value < countLimit then some (value, skipBlanks rest) else none

/-- A count behind its brace: the least and greatest number of repetitions. -/
def count? (flags : Flags) (rest : List Char) : Option (Nat × Option Nat × List Char) := do
  let (least, rest) ← countNumber? flags (Cursor.skipped flags rest)
  match rest with
  | '\x7d' :: rest => some (least, some least, rest)
  | ',' :: rest =>
    match Cursor.skipped flags rest with
    | '\x7d' :: rest => some (least, none, rest)
    | rest => do
      let (most, rest) ← countNumber? flags rest
      match rest with
      | '\x7d' :: rest => if least ≤ most then some (least, some most, rest) else none
      | _ => none
  | _ => none

def skipLazy (rest : List Char) : List Char :=
  match rest with
  | '?' :: rest => rest
  | _ => rest

/-- The characters that a dot stands for. Outside of Unicode mode it would cut characters apart. -/
def dotSet? (flags : Flags) : Option Charset :=
  if !flags.unicode then none
  else if flags.dotAll then some .every
  else if flags.crlf then some (.complement (.union (.single '\n') (.single '\r')))
  else some (.complement (.single '\n'))

def characterRegex (flags : Flags) (c : Char) : Regex :=
  .one (foldAndNegate flags false (.single c))

def atomRegex (flags : Flags) : Atom → Regex
  | .character c => characterRegex flags c
  | .set set => .one set
  | .anchor condition => .anchor condition

mutual

/-- The alternatives up to the end of the group or of the pattern. The fuel bounds the number of
parts. -/
def alternatives? [Dialect] (done : Option DeepRegex) (parts : Parts) :
    Nat → Cursor → Option (DeepRegex × Cursor)
  | 0, _ => none
  | fuel + 1, cursor =>
    let cursor := cursor.skipSpace
    let flags := cursor.flags
    let joined := DeepRegex.besides done parts.row
    let finished := if done.isSome then joined.nested else joined
    let goOn := fun (parts : Option Parts) (rest : List Char) => do
      alternatives? done (← parts) fuel { cursor with rest }
    match cursor.rest with
    | [] => some (finished, cursor)
    | ')' :: _ => some (finished, cursor)
    | '|' :: rest => alternatives? (some joined) [] fuel { cursor with rest }
    | '(' :: rest => group? done parts fuel { cursor with rest }
    | '[' :: rest => do
      let (found, rest) ← bracketClass? flags rest
      goOn (some (some { regex := .one found.set, depth := found.depth } :: parts)) rest
    | '?' :: rest => goOn (parts.repeated? 0 (some 1)) (skipLazy rest)
    | '*' :: rest => goOn (parts.repeated? 0 none) (skipLazy rest)
    | '+' :: rest => goOn (parts.repeated? 1 none) (skipLazy rest)
    | '\x7b' :: rest => do
      let (least, most, rest) ← count? flags rest
      goOn (parts.repeated? least most) (skipLazy (Cursor.skipped flags rest))
    | '\\' :: rest => do
      let (atom, rest) ← escape? flags rest
      goOn (some (parts.plain (atomRegex flags atom))) rest
    | '.' :: rest => do
      let set ← dotSet? flags
      goOn (some (parts.plain (.one set))) rest
    | '^' :: rest =>
      let condition := if flags.multiLine then .lineStart flags.crlf else .textStart
      goOn (some (parts.plain (.anchor condition))) rest
    | '$' :: rest =>
      let condition := if flags.multiLine then .lineEnd flags.crlf else .textEnd
      goOn (some (parts.plain (.anchor condition))) rest
    | c :: rest => goOn (some (parts.plain (characterRegex flags c))) rest

/-- A group behind its opening parenthesis, and what follows it. Flags set inside end with the
group. -/
def group? [Dialect] (done : Option DeepRegex) (parts : Parts) :
    Nat → Cursor → Option (DeepRegex × Cursor)
  | 0, _ => none
  | fuel + 1, cursor => do
    let (start, inner) ← opening? cursor
    match start with
    | .flags flags => alternatives? done (none :: parts) fuel { inner with flags }
    | .group flags _ =>
      let (body, behind) ← alternatives? none [] fuel { inner with flags }
      match behind.rest with
      | ')' :: rest =>
        let after := { behind with rest, flags := cursor.flags }
        alternatives? done (some body.nested :: parts) fuel after
      | _ => none

end

def depthLimit : Nat := 250

/-- The expression that a whole pattern spells. -/
def Regex.read? [Dialect] (pattern : String) : Option Regex := do
  let chars := pattern.toList
  let (found, cursor) ← alternatives? none [] (2 * chars.length + 2) { rest := chars }
  if cursor.rest.isEmpty && found.depth ≤ depthLimit then some found.regex else none

/-- The expression that a pattern compiles to, unless that is too large. -/
def Regex.compile? [Dialect] (pattern : String) : Option Regex :=
  if Dialect.admits pattern then Regex.read? pattern else none

end FleetSearch.Pattern
