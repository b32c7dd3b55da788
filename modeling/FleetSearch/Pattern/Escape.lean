import FleetSearch.Pattern.Basic
import FleetSearch.Pattern.Dialect
import FleetSearch.Text.Digits
import FleetSearch.Text.Split

/-! The parts of patterns that stand for a single character, a set of them or a condition. -/

namespace FleetSearch.Pattern

/-- What a part of a pattern is read under. -/
structure Flags where
  anyCase : Bool := false
  multiLine : Bool := false
  dotAll : Bool := false
  crlf : Bool := false
  unicode : Bool := true
  /-- Blanks and comments do not count. -/
  spaced : Bool := false

/-- Whether a byte can stand for a character, and a class can hold it. Outside of Unicode mode that
goes for ASCII only. -/
def Flags.covers (flags : Flags) (c : Char) : Bool :=
  flags.unicode || c.toNat < 0x80

/-- The pattern that is left to read. -/
structure Cursor where
  rest : List Char
  flags : Flags := {}
  names : List String := []

namespace Cursor

def behindSpace (inComment : Bool) : List Char → List Char
  | [] => []
  | c :: rest =>
    if inComment then behindSpace (c != '\n') rest
    else if Unicode.isBlank c then behindSpace false rest
    else if c == '#' then behindSpace true rest
    else c :: rest

/-- Moves behind blanks and comments where they do not count. -/
def skipSpace (cursor : Cursor) : Cursor :=
  if cursor.flags.spaced then { cursor with rest := behindSpace false cursor.rest } else cursor

/-- The text behind blanks and comments where they do not count. -/
def skipped (flags : Flags) (rest : List Char) : List Char :=
  if flags.spaced then behindSpace false rest else rest

end Cursor

/-- A part of a pattern that is no group, class in brackets or repetition. -/
inductive Atom where
  | character (c : Char)
  | set (set : Charset)
  | anchor (condition : Anchor)

/-- Signs that an escape can always stand for. Letters, digits and angle brackets are other
escapes, and nothing outside of ASCII is one. -/
def isEscapable (c : Char) : Bool :=
  c.toNat < 0x80 && !c.isAlphanum && c != '<' && c != '>'

def codeChar? (digits : List Char) : Option Char := do
  let code ← Text.natural? 16 digits
  if code < 0xd800 ∨ (0xdfff < code ∧ code ≤ 0x10ffff) then some (Char.ofNat code) else none

/-- A number of digits, between which blanks may not count. -/
def takeDigits (flags : Flags) : Nat → List Char → List Char × List Char
  | 0, rest => ([], rest)
  | _ + 1, [] => ([], [])
  | count + 1, c :: rest =>
    let (digits, rest) := takeDigits flags count (Cursor.skipped flags rest)
    (c :: digits, rest)

/-- The text up to a closing brace. Where blanks and comments do not count, they are left out. -/
def bracedText? (spaced inComment : Bool) : List Char → Option (List Char × List Char)
  | [] => none
  | c :: rest =>
    if inComment then bracedText? spaced (c != '\n') rest
    else if c == '\x7d' then some ([], rest)
    else if spaced && Unicode.isBlank c then bracedText? spaced false rest
    else if spaced && c == '#' then bracedText? spaced true rest
    else (bracedText? spaced false rest).map fun (text, rest) => (c :: text, rest)

/-- A character by its code, behind the letter that gives the number of digits. Outside of Unicode
mode two digits are a byte, which is a character in ASCII only. -/
def hexCharacter? (flags : Flags) (count : Nat) (rest : List Char) : Option (Char × List Char) :=
  match Cursor.skipped flags rest with
  | '\x7b' :: rest => do
    let (digits, rest) ← bracedText? flags.spaced false rest
    some (← codeChar? digits, Cursor.skipped flags rest)
  | rest => do
    let (digits, rest) := takeDigits flags count rest
    let c ← codeChar? digits
    if digits.length = count && (count != 2 || flags.covers c) then some (c, rest) else none

/-- The set of a property behind its letter, which is named in braces or by one letter. -/
def property? [Dialect] (flags : Flags) (rest : List Char) : Option (Charset × Bool × List Char) :=
  match Cursor.skipped flags rest with
  | [] => none
  | '\\' :: _ => none
  | '\x7b' :: rest => do
    let (text, rest) ← bracedText? flags.spaced false rest
    let (set, negated) ← Dialect.property? (String.ofList text)
    some (set, negated, rest)
  | c :: rest => do
    let (set, negated) ← Dialect.property? (String.ofList [c])
    some (set, negated, Cursor.skipped flags rest)

def negateIf (negated : Bool) (set : Charset) : Charset :=
  if negated then .complement set else set

/-- A set without regard to case where the flags ask for it, and then its complement. -/
def foldAndNegate (flags : Flags) (negated : Bool) (set : Charset) : Charset :=
  negateIf negated (if flags.anyCase then .anyCase flags.unicode set else set)

/-- The set of a class of ASCII or in brackets. Outside of Unicode mode the complement of one would
cut characters apart. -/
def foldAndNegate? (flags : Flags) (negated : Bool) (set : Charset) : Option Charset :=
  if negated && !flags.unicode then none else some (foldAndNegate flags negated set)

/-- A class by its letter. Outside of Unicode mode it holds ASCII only, and its complement would
cut characters apart. -/
def letterClass? (flags : Flags) (c : Char) : Option Charset :=
  let inner (name : Named) (ascii : String) (negated : Bool) : Option Charset :=
    if flags.unicode then some (negateIf negated (.named name))
    else if negated then none
    else asciiSet? ascii
  match c with
  | 'd' => inner .digit "digit" false
  | 'D' => inner .digit "digit" true
  | 's' => inner .space "space" false
  | 'S' => inner .space "space" true
  | 'w' => inner .word "word" false
  | 'W' => inner .word "word" true
  | _ => none

def letterCharacter? : Char → Option Char
  | 'a' => some '\x07'
  | 'f' => some '\x0c'
  | 't' => some '\t'
  | 'n' => some '\n'
  | 'r' => some '\r'
  | 'v' => some '\x0b'
  | _ => none

def isBoundaryChar (c : Char) : Bool := c.isAlpha || c == '-'

/-- A boundary of words behind its letter; a brace may name a special one, unless it starts a
count. -/
def boundary? (flags : Flags) (rest : List Char) : Option (Anchor × List Char) :=
  match rest with
  | '\x7b' :: inner =>
    let inner := Cursor.skipped flags inner
    match inner with
    | [] => none
    | c :: _ =>
      if !isBoundaryChar c then some (.wordBoundary flags.unicode, rest)
      else do
        let (text, rest) ← bracedText? flags.spaced false inner
        let condition ← match String.ofList text with
          | "start" => some (Anchor.wordStart flags.unicode)
          | "end" => some (Anchor.wordEnd flags.unicode)
          | "start-half" => some (Anchor.wordStartHalf flags.unicode)
          | "end-half" => some (Anchor.wordEndHalf flags.unicode)
          | _ => none
        some (condition, rest)
  | _ => some (.wordBoundary flags.unicode, rest)

def escape? [Dialect] (flags : Flags) : List Char → Option (Atom × List Char)
  | [] => none
  | c :: rest =>
    match c with
    | 'x' => (hexCharacter? flags 2 rest).map fun (c, rest) => (.character c, rest)
    | 'u' => (hexCharacter? flags 4 rest).map fun (c, rest) => (.character c, rest)
    | 'U' => (hexCharacter? flags 8 rest).map fun (c, rest) => (.character c, rest)
    | 'p' | 'P' => do
      let (set, unequal, rest) ← property? flags rest
      if flags.unicode then
        some (.set (foldAndNegate flags ((c == 'P') != unequal) set), rest)
      else none
    | 'A' => some (.anchor .textStart, rest)
    | 'z' => some (.anchor .textEnd, rest)
    | 'b' => (boundary? flags rest).map fun (condition, rest) => (.anchor condition, rest)
    | 'B' => some (.anchor (.noWordBoundary flags.unicode), rest)
    | '<' => some (.anchor (.wordStart flags.unicode), rest)
    | '>' => some (.anchor (.wordEnd flags.unicode), rest)
    | _ =>
      match letterClass? flags c, letterCharacter? c with
      | some set, _ => some (.set set, rest)
      | none, some value => some (.character value, rest)
      | none, none => if isEscapable c then some (.character c, rest) else none

end FleetSearch.Pattern
