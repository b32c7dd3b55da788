import FleetSearch.Decimal.Layout
import FleetSearch.Text.Split
import FleetSearch.Text.Utf8
import FleetSearch.Yaml.Plain
import FleetSearch.Yaml.Spot
import FleetSearch.Yaml.Value

/-! The text of values in block style. Texts are written so that they read back as texts. -/

namespace FleetSearch.Yaml

/-- Doubles in YAML: no plus in exponents, and names for what is not finite. -/
def layout : Decimal.Layout :=
  { exponentPlus := false, infinity := ".inf", undefined := ".nan" }

def looseBooleans : List String :=
  ["y", "Y", "yes", "Yes", "YES", "n", "N", "no", "No", "NO", "true", "True", "TRUE", "false",
    "False", "FALSE", "on", "On", "ON", "off", "Off", "OFF"]

def isShown (c : Char) : Bool :=
  let code := c.toNat
  code == 10 || (32 ≤ code && code ≤ 126) ||
    (0xa0 ≤ code && code != 0xfeff && code != 0xfffe && code != 0xffff)

/-- Signs that no plain text starts with. -/
def startSigns : List Char :=
  ['#', ',', '[', ']', '\x7b', '\x7d', '&', '*', '!', '|', '>', '\'', '"', '%', '@', '\x60']

/-- Whether a sign inside a text, given the characters around it, keeps it from being plain. -/
def hasInnerSign : Char → List Char → Bool
  | _, [] => false
  | before, c :: rest =>
    let spacedBehind := isGap (rest.head?.getD endMark)
    (c == ':' && spacedBehind) || (c == '#' && isGap before) || hasInnerSign c rest

def hasStartSign (chars : List Char) : Bool :=
  match chars with
  | [] => false
  | c :: rest =>
    let spacedBehind := isGap (rest.head?.getD endMark)
    startSigns.contains c || ((c == '?' || c == ':' || c == '-') && spacedBehind) ||
      chars.take 3 == documentStartMark || chars.take 3 == documentEndMark

/-- Whether a blank or a break of the given kind stands directly before one of the other. -/
def hasNeighbours (first second : Char → Bool) : List Char → Bool
  | a :: b :: rest => (first a && second b) || hasNeighbours first second (b :: rest)
  | _ => false

def isSpace (c : Char) : Bool := c == ' '

structure Allowed where
  plain : Bool
  singleQuoted : Bool
  block : Bool

/-- The styles in which a nonempty text can be written. -/
def Allowed.ofChars (chars : List Char) : Allowed :=
  let isEdge := fun c => isSpace c || isBreak c
  let atEdge := (chars.head?.map isEdge).getD false || (chars.getLast?.map isEdge).getD false
  let spaceBreak := hasNeighbours isSpace isBreak chars
  let breakSpace := hasNeighbours isBreak isSpace chars
  let special := spaceBreak || !chars.all isShown
  let signs := hasStartSign chars || hasInnerSign (chars.head?.getD ' ') (chars.drop 1)
  { plain := !atEdge && !breakSpace && !special && !chars.any isBreak && !signs
    singleQuoted := !breakSpace && !special
    block := !special && !((chars.getLast?.map isSpace).getD false) }

def hexEscape (letter : Char) (width code : Nat) : List Char :=
  let digits := (Text.digits 16 code).map Char.toUpper
  '\\' :: letter :: List.replicate (width - digits.length) '0' ++ digits

def doubleQuotedChar (c : Char) : List Char :=
  match c with
  | '\x00' => ['\\', '0']
  | '\x07' => ['\\', 'a']
  | '\x08' => ['\\', 'b']
  | '\t' => ['\\', 't']
  | '\n' => ['\\', 'n']
  | '\x0b' => ['\\', 'v']
  | '\x0c' => ['\\', 'f']
  | '\r' => ['\\', 'r']
  | '\x1b' => ['\\', 'e']
  | '"' => ['\\', '"']
  | '\\' => ['\\', '\\']
  | '\u0085' => ['\\', 'N']
  | '\u2028' => ['\\', 'L']
  | '\u2029' => ['\\', 'P']
  | _ =>
    if isShown c then [c]
    else if c.toNat ≤ 0xff then hexEscape 'x' 2 c.toNat
    else if c.toNat ≤ 0xffff then hexEscape 'u' 4 c.toNat
    else hexEscape 'U' 8 c.toNat

def doubleQuoted (chars : List Char) : List Char :=
  '"' :: chars.flatMap doubleQuotedChar ++ ['"']

def singleQuoted (chars : List Char) : List Char :=
  '\'' :: (chars.flatMap fun c => if c == '\'' then ['\'', '\''] else [c]) ++ ['\'']

def margin (indent : Nat) : List Char := List.replicate indent ' '

/-- The lines of a block, with a margin before each line that is not empty. -/
def marginLines (indent : Nat) : Bool → List Char → List Char
  | _, [] => []
  | atStart, c :: rest =>
    if isBreak c then c :: marginLines indent true rest
    else (if atStart then margin indent else []) ++ c :: marginLines indent false rest

def literalBlock (indent : Nat) (chars : List Char) : List Char :=
  let edge := (chars.head?.map fun c => isSpace c || isBreak c).getD false
  let hint := if edge then ['2'] else []
  let chomping := match chars.reverse with
    | last :: before =>
      if !isBreak last then ['-']
      else match before with
        | [] => ['+']
        | c :: _ => if isBreak c then ['+'] else []
    | [] => ['-']
  '|' :: hint ++ chomping ++ '\n' :: marginLines indent true chars

/-- A text; as a key it stays on one line. -/
def stringChars (asKey : Bool) (indent : Nat) (text : String) : List Char :=
  let chars := text.toList
  if chars.isEmpty then singleQuoted []
  else
    let allowed := Allowed.ofChars chars
    let quoted := if allowed.singleQuoted && !(asKey && chars.any isBreak) then singleQuoted chars
      else doubleQuoted chars
    if looseBooleans.contains text then quoted
    else if chars.contains '\n' then
      if allowed.block && !asKey then literalBlock indent chars else doubleQuoted chars
    else match Plain.ofText text with
      | .text =>
        if Plain.isPaddedDigits chars then quoted
        else if allowed.plain then chars
        else quoted
      | _ => quoted

/-- The longest key, in bytes, that stands before its colon without a question mark. -/
def maxPlainKey : Nat := 128

/-- A value that is no collection with members. Further lines of a text stand at `indent`. -/
def flatChars (asKey : Bool) (indent : Nat) : Value → List Char
  | .null => ['n', 'u', 'l', 'l']
  | .bool true => ['t', 'r', 'u', 'e']
  | .bool false => ['f', 'a', 'l', 's', 'e']
  | .integer value => (Text.signedDecimal value).toList
  | .float value => (layout.write value).toList
  | .string text => stringChars asKey indent text
  | .sequence _ => ['[', ']']
  | .mapping _ => ['\x7b', '\x7d']

def isPlainKey : Value → Bool
  | .sequence items => items.isEmpty
  | .mapping pairs => pairs.isEmpty
  | .string text =>
    !text.toList.any isBreak && (Text.encodeUtf8 text.toList).length ≤ maxPlainKey
  | _ => true

/-- Where a value begins behind a plain key at `indent`, and where its own parts stand:
collections begin on the next line, a sequence without further indentation. -/
def valueStart (indent : Nat) : Value → List Char × Nat
  | .sequence (_ :: _) => ('\n' :: margin indent, indent)
  | .mapping (_ :: _) => ('\n' :: margin (indent + 2), indent + 2)
  | _ => ([' '], indent + 2)

/-- A part followed by another one on a new line at `indent`; a part may bring the end of its last
line along. -/
def thenLine (indent : Nat) (part next : List Char) : List Char :=
  let ended := (part.getLast?.map isBreak).getD false
  part ++ (if ended then [] else ['\n']) ++ margin indent ++ next

def joinLines (indent : Nat) : List (List Char) → List Char
  | [] => []
  | [part] => part
  | part :: rest => thenLine indent part (joinLines indent rest)

mutual

/-- A value that begins at `indent`. -/
def Value.chars (indent : Nat) : Value → List Char
  | .sequence (item :: rest) => joinLines indent (itemLines indent (item :: rest))
  | .mapping (pair :: rest) => joinLines indent (pairLines indent (pair :: rest))
  | other => flatChars false indent other

/-- The items of a sequence whose hyphens stand at `indent`. -/
def itemLines (indent : Nat) : List Value → List (List Char)
  | [] => []
  | item :: rest => ('-' :: ' ' :: item.chars (indent + 2)) :: itemLines indent rest

/-- The pairs of a mapping whose keys stand at `indent`. A key that is a collection or long
stands behind a question mark. -/
def pairLines (indent : Nat) : List (Value × Value) → List (List Char)
  | [] => []
  | (key, value) :: rest =>
    (if isPlainKey key then
      let (start, inner) := valueStart indent value
      flatChars true indent key ++ ':' :: start ++ value.chars inner
    else
      thenLine indent ('?' :: ' ' :: key.chars (indent + 2))
        (':' :: ' ' :: value.chars (indent + 2))) :: pairLines indent rest

end

def Value.write (value : Value) : String :=
  String.ofList (value.chars 0)

end FleetSearch.Yaml
