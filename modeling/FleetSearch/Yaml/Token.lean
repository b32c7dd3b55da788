import FleetSearch.Text.Utf8
import FleetSearch.Yaml.ScalarText

/-! The tokens of a document. Indentation shows up as tokens that begin and end block
collections. -/

namespace FleetSearch.Yaml

inductive Style where
  | plain
  | singleQuoted
  | doubleQuoted
  | literal
  | folded
deriving DecidableEq, Repr

inductive Token where
  | version (major minor : Nat)
  | tagDirective (handle start : String)
  | documentStart
  | documentEnd
  | blockSequenceStart
  | blockMappingStart
  | blockEnd
  | flowSequenceStart
  | flowSequenceEnd
  | flowMappingStart
  | flowMappingEnd
  | blockEntry
  | flowEntry
  | key
  | value
  | aliasOf (name : String)
  | anchor (name : String)
  | tag (handle suffix : String)
  | scalar (style : Style) (text : String)
  | streamEnd
deriving DecidableEq, Repr

namespace Token

/-- The characters at the start that satisfy a test, and what follows. -/
def word (test : Char → Bool) (spots : List Spot) : List Char × List Spot :=
  let (front, rest) := spots.span fun spot => test spot.char
  (front.map Spot.char, rest)

/-- The name of an anchor or alias; it ends at a gap or at one of a few signs. -/
def name? (spots : List Spot) : Option (String × List Spot) :=
  let (name, rest) := word isWordChar spots
  let next := charAt 0 rest
  if !name.isEmpty &&
      (isGap next || ['?', ':', ',', ']', '\x7d', '%', '@', '\x60'].contains next) then
    some (String.ofList name, rest)
  else none

def tagSigns : List Char :=
  [';', '/', '?', ':', '@', '&', '=', '+', '$', '.', '%', '!', '~', '*', '\'', '(', ')']

def fullTagSigns : List Char := [',', '[', ']']

def isTagChar (full : Bool) (c : Char) : Bool :=
  isWordChar c || tagSigns.contains c || (full && fullTagSigns.contains c)

/-- The bytes of a part of a tag, in which a percent sign and two digits stand for one byte. -/
def tagBytes? : List Char → Option (List Nat)
  | [] => some []
  | '%' :: a :: b :: rest => do
    let byte ← Text.natural? 16 [a, b]
    (tagBytes? rest).map (byte :: ·)
  | '%' :: _ => none
  | c :: rest => (tagBytes? rest).map (Text.encodeChar c ++ ·)

/-- A part of a tag, possibly empty, and what follows. -/
def tagPart? (full : Bool) (spots : List Spot) : Option (String × List Spot) := do
  let (chars, rest) := word (isTagChar full) spots
  let text ← Text.decodeUtf8? (← tagBytes? chars)
  some (String.ofList text, rest)

/-- A nonempty part of a tag. -/
def someTagPart? (full : Bool) (spots : List Spot) : Option (String × List Spot) := do
  let (text, rest) ← tagPart? full spots
  if text = "" then none else some (text, rest)

/-- The handle of a tag: an exclamation mark, and perhaps a word with a second one. -/
def handle (spots : List Spot) : List Char × List Spot :=
  let (name, rest) := word isWordChar (spots.drop 1)
  if charAt 0 rest == '!' then ('!' :: name ++ ['!'], rest.drop 1) else ('!' :: name, rest)

def isClosedHandle (chars : List Char) : Bool :=
  decide (1 < chars.length) && chars.getLast? == some '!'

/-- A tag, from its exclamation mark on. A tag written out has no handle, and neither has the
single exclamation mark. -/
def tag? (inFlow : Bool) (spots : List Spot) : Option (Token × List Spot) := do
  let (token, rest) ←
    if charAt 1 spots == '<' then do
      let (suffix, rest) ← someTagPart? true (spots.drop 2)
      if charAt 0 rest == '>' then some (tag "" suffix, rest.drop 1) else none
    else
      let (chars, rest) := handle spots
      if isClosedHandle chars then do
        let (suffix, rest) ← someTagPart? false rest
        some (tag (String.ofList chars) suffix, rest)
      else do
        let (suffix, rest) ← tagPart? false rest
        let suffix := String.ofList (chars.drop 1) ++ suffix
        some (if suffix = "" then tag "" "!" else tag "!" suffix, rest)
  let next := charAt 0 rest
  if (inFlow && next == ',') || isGap next then some (token, rest) else none

def maxVersionDigits : Nat := 9

/-- A number of a version, and what follows. -/
def versionNumber? (spots : List Spot) : Option (Nat × List Spot) := do
  let (digits, rest) := word Char.isDigit spots
  if digits.length > maxVersionDigits then none
  else some (← Text.natural? 10 digits, rest)

def skipBlanks (spots : List Spot) : List Spot :=
  spots.dropWhile fun spot => isBlank spot.char

/-- A directive, from its percent sign on. -/
def directive? (spots : List Spot) : Option (Token × List Spot) := do
  let (name, rest) := word isWordChar (spots.drop 1)
  if !isGap (charAt 0 rest) then none
  else do
    let (token, rest) ← match String.ofList name with
      | "YAML" => do
        let (major, rest) ← versionNumber? (skipBlanks rest)
        if charAt 0 rest == '.' then do
          let (minor, rest) ← versionNumber? (rest.drop 1)
          some (version major minor, rest)
        else none
      | "TAG" => do
        let rest := skipBlanks rest
        if charAt 0 rest != '!' then none
        else
          let (chars, rest) := handle rest
          if !(isClosedHandle chars || chars == ['!']) || !isBlank (charAt 0 rest) then none
          else do
            let (start, rest) ← someTagPart? true (skipBlanks rest)
            if isGap (charAt 0 rest) then some (tagDirective (String.ofList chars) start, rest)
            else none
      | _ => none
    some (token, ← lineRest? rest)

end Token

end FleetSearch.Yaml
