import FleetSearch.Unicode.Fold
import FleetSearch.Unicode.Letters
import FleetSearch.Unicode.Script
import FleetSearch.Unicode.Traits
import FleetSearch.Unicode.Upper

/-! Sets of characters, as they are written in patterns. -/

namespace FleetSearch.Pattern

/-- A class with a name of its own. -/
inductive Named where
  | categories (members : List Unicode.Category)
  | script (code : String)
  | trait (name : String)
  | digit
  | space
  | word
  | alphabetic
  | lowercase
  | uppercase
  | extender
  | folded
  | raised
deriving DecidableEq, Repr

def Named.holds (c : Char) : Named → Bool
  | .categories members => members.contains (Unicode.category c)
  | .script code => Unicode.script c == code
  | .trait name => Unicode.hasTrait name c
  | .digit => Unicode.category c == .decimalNumber
  | .space => Unicode.isBlank c
  | .word => Unicode.isWordChar c
  | .alphabetic => Unicode.isAlphabetic c
  | .lowercase => Unicode.isLowercase c
  | .uppercase => Unicode.isUppercase c
  | .extender => Unicode.isExtender c
  | .folded => Unicode.foldChar c != c
  | .raised => Unicode.upperChar c != [c]

inductive Charset where
  | empty
  | range (first last : Char)
  | named (name : Named)
  | complement (set : Charset)
  | union (left right : Charset)
  | intersection (left right : Charset)
  | difference (left right : Charset)
  | symmetricDifference (left right : Charset)
  /-- With all characters that differ from a member in case only; outside of Unicode mode only in
  ASCII. -/
  | anyCase (unicode : Bool) (set : Charset)
deriving DecidableEq, Repr, Inhabited

namespace Charset

def single (c : Char) : Charset := .range c c

def every : Charset := .complement .empty

def unions : List Charset → Charset
  | [] => .empty
  | [set] => set
  | set :: rest => .union set (unions rest)

def variants (unicode : Bool) (c : Char) : List Char :=
  if unicode then c :: Unicode.caseVariants c
  else if c.toNat < 0x80 then [c, c.toLower, c.toUpper] else [c]

def holds (c : Char) : Charset → Bool
  | .empty => false
  | .range first last => first ≤ c && c ≤ last
  | .named name => name.holds c
  | .complement set => !holds c set
  | .union left right => holds c left || holds c right
  | .intersection left right => holds c left && holds c right
  | .difference left right => holds c left && !holds c right
  | .symmetricDifference left right => holds c left != holds c right
  | .anyCase unicode set => (variants unicode c).any (holds · set)

end Charset

end FleetSearch.Pattern
