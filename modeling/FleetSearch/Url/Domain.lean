import FleetSearch.Text.Split
import FleetSearch.Unicode.Category
import FleetSearch.Unicode.Fold
import FleetSearch.Url.Punycode

/-! The ASCII form of domain names: labels in lower case, those with other characters in bootstring
code behind a mark. -/

namespace FleetSearch.Url

def codeMark : List Char := ['x', 'n', '-', '-']

/-- Characters of ASCII that no domain may hold. -/
def isForbidden (c : Char) : Bool :=
  c.toNat ≤ 0x20 || c.toNat == 0x7f ||
    ['"', '#', '%', '/', ':', '<', '>', '?', '@', '[', '\\', ']', '^', '|'].contains c

def isIgnored (c : Char) : Bool :=
  let code := c.toNat
  code == 0xad || code == 0x34f || (0x180b ≤ code && code ≤ 0x180d) || code == 0x180f ||
    code == 0x200b || code == 0x2060 || code == 0x2064 || code == 0xfeff ||
    (0xfe00 ≤ code && code ≤ 0xfe0f) || (0xe0100 ≤ code && code ≤ 0xe01ef)

/-- The character that one in a domain is read as: full-width forms as the usual ones,
ideographic dots as dots, and everything in lower case. -/
def foldDomainChar (c : Char) : Char :=
  let code := c.toNat
  if code == 0x3002 || code == 0xff0e || code == 0xff61 then '.'
  else if 0xff01 ≤ code && code ≤ 0xff5e then (Char.ofNat (code - 0xfee0)).toLower
  else Unicode.foldChar c

def isLabelChar (c : Char) : Bool :=
  c.toNat < 0x80 ||
    match Unicode.category c with
    | .control | .format | .surrogate | .privateUse | .unassigned => false
    | .spaceSeparator | .lineSeparator | .paragraphSeparator => false
    | _ => true

def isMark (c : Char) : Bool :=
  match Unicode.category c with
  | .nonspacingMark | .spacingMark | .enclosingMark => true
  | _ => false

def isLabel (label : List Char) : Bool :=
  label.all isLabelChar && !((label.head?.map isMark).getD false)

def isAscii (chars : List Char) : Bool := chars.all fun c => c.toNat < 0x80

def labelCode? (label : List Char) : Option (List Char) :=
  if codeMark.isPrefixOf label then
    match Punycode.decode? (label.drop 4) with
    | some plain =>
      if !isAscii plain && isLabel plain && plain.map foldDomainChar == plain &&
          codeMark ++ Punycode.encode plain == label then some label
      else none
    | none => none
  else if isAscii label then some label
  else if isLabel label then some (codeMark ++ Punycode.encode label)
  else none

def domainCode? (domain : List Char) : Option (List Char) := do
  let folded := (domain.filter fun c => !isIgnored c).map foldDomainChar
  let codes ← (Text.splitChars '.' folded).mapM labelCode?
  let name := (Text.join "." (codes.map String.ofList)).toList
  if name.any isForbidden then none else some name

end FleetSearch.Url
