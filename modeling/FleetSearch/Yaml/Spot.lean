/-! The characters of a document with their places. Line breaks of every spelling are one
character, and the end of the text is a place of its own, marked by a character that no document
may hold. -/

namespace FleetSearch.Yaml

/-- A character and where it stands. -/
structure Spot where
  char : Char
  index : Nat
  line : Nat
  column : Nat

def endMark : Char := '\x00'

def isBlank (c : Char) : Bool := c == ' ' || c == '\t'

/-- Ends of a line; those of two characters have become one. -/
def isBreak (c : Char) : Bool := c == '\n' || c == '\u2028' || c == '\u2029'

/-- Ends of a line, and the end of the text. -/
def isBreakOrEnd (c : Char) : Bool := isBreak c || c == endMark

/-- Blanks, ends of a line and the end of the text. -/
def isGap (c : Char) : Bool := isBlank c || isBreakOrEnd c

/-- The characters of words: letters, digits, underscore and hyphen of ASCII. -/
def isWordChar (c : Char) : Bool := c.isAlphanum || c == '_' || c == '-'

def isAllowed (c : Char) : Bool :=
  let code := c.toNat
  code == 9 || code == 10 || code == 13 || (32 ≤ code && code ≤ 126) || code == 0x85 ||
    (0xa0 ≤ code && code ≤ 0xd7ff) || (0xe000 ≤ code && code ≤ 0xfffd) || 0x10000 ≤ code

def spotsFrom (index line column : Nat) : List Char → List Spot
  | [] => [⟨endMark, index, line, column⟩]
  | '\r' :: '\n' :: rest =>
    ⟨'\n', index, line, column⟩ :: spotsFrom (index + 2) (line + 1) 0 rest
  | c :: rest =>
    if c = '\r' ∨ c = '\n' ∨ c = '\x85' then
      ⟨'\n', index, line, column⟩ :: spotsFrom (index + 1) (line + 1) 0 rest
    else if isBreak c then ⟨c, index, line, column⟩ :: spotsFrom (index + 1) (line + 1) 0 rest
    else ⟨c, index, line, column⟩ :: spotsFrom (index + 1) line (column + 1) rest

/-- The places of a text without its byte order mark; `none` where a character is not allowed. -/
def spots? (text : String) : Option (List Spot) :=
  let chars := match text.toList with
    | '\ufeff' :: rest => rest
    | chars => chars
  if chars.all isAllowed then some (spotsFrom 0 0 0 chars) else none

def charAt (ahead : Nat) (spots : List Spot) : Char :=
  match spots[ahead]? with
  | some spot => spot.char
  | none => endMark

def goesOn (chars : List Char) (spots : List Spot) : Bool :=
  (spots.map Spot.char).take chars.length == chars

def isDocumentMark (mark : List Char) (spots : List Spot) : Bool :=
  match spots with
  | spot :: _ => spot.column == 0 && goesOn mark spots && isGap (charAt 3 spots)
  | [] => false

def documentStartMark : List Char := ['-', '-', '-']

def documentEndMark : List Char := ['.', '.', '.']

def isAnyDocumentMark (spots : List Spot) : Bool :=
  isDocumentMark documentStartMark spots || isDocumentMark documentEndMark spots

end FleetSearch.Yaml
