import FleetSearch.Pattern.Charset

/-! Regular expressions and what they match. -/

namespace FleetSearch.Pattern

/-- A condition on a place in the text. -/
inductive Anchor where
  | textStart
  | textEnd
  /-- With `crlf`, a line also ends at a carriage return. -/
  | lineStart (crlf : Bool)
  | lineEnd (crlf : Bool)
  | wordBoundary (unicode : Bool)
  | noWordBoundary (unicode : Bool)
  | wordStart (unicode : Bool)
  | wordEnd (unicode : Bool)
  | wordStartHalf (unicode : Bool)
  | wordEndHalf (unicode : Bool)
deriving DecidableEq, Repr

inductive Regex where
  | empty
  | one (set : Charset)
  | anchor (condition : Anchor)
  | sequence (first second : Regex)
  | choice (left right : Regex)
  /-- From `least` times to `most` times, or any number of times. -/
  | repetition (body : Regex) (least : Nat) (most : Option Nat)
deriving DecidableEq, Repr, Inhabited

/-- Whether a character is part of a word; outside of Unicode mode only in ASCII. -/
def isWord (unicode : Bool) (c : Char) : Bool :=
  if unicode then Unicode.isWordChar c else c.isAlphanum || c == '_'

/-- Whether a condition holds between the character before a place and the one behind it. -/
def Anchor.holds (before behind : Option Char) (condition : Anchor) : Bool :=
  let word := fun unicode => fun (c : Option Char) => (c.map (isWord unicode)).getD false
  match condition with
  | .textStart => before.isNone
  | .textEnd => behind.isNone
  | .lineStart crlf =>
    before.isNone || before == some '\n' || (crlf && before == some '\r' && behind != some '\n')
  | .lineEnd crlf =>
    behind.isNone || (crlf && behind == some '\r') ||
      (behind == some '\n' && !(crlf && before == some '\r'))
  | .wordBoundary unicode => word unicode before != word unicode behind
  | .noWordBoundary unicode => word unicode before == word unicode behind
  | .wordStart unicode => !word unicode before && word unicode behind
  | .wordEnd unicode => word unicode before && !word unicode behind
  | .wordStartHalf unicode => !word unicode before
  | .wordEndHalf unicode => !word unicode behind

namespace Regex

/-- Places without repetitions. -/
def distinct (places : List Nat) : List Nat :=
  places.foldl (fun found place => if found.contains place then found else found ++ [place]) []

/-- The places that a step leads to, taken a number of times. -/
def iterate (step : Nat → List Nat) : Nat → List Nat → List Nat
  | 0, places => places
  | times + 1, places => iterate step times (distinct (places.flatMap step))

/-- The places that a step leads to, taken at most a number of times. -/
def reachable (step : Nat → List Nat) : Nat → List Nat → List Nat
  | 0, places => places
  | times + 1, places =>
    let next := distinct (places ++ places.flatMap step)
    if next.length = places.length then places else reachable step times next

def ends (text : Array Char) : Regex → Nat → List Nat
  | .empty, place => [place]
  | .one set, place =>
    match text[place]? with
    | some c => if set.holds c then [place + 1] else []
    | none => []
  | .anchor condition, place =>
    let before := if place = 0 then none else text[place - 1]?
    if condition.holds before text[place]? then [place] else []
  | .sequence first second, place =>
    distinct ((first.ends text place).flatMap (second.ends text))
  | .choice left right, place => distinct (left.ends text place ++ right.ends text place)
  | .repetition body least most, place =>
    let start := iterate (body.ends text) least [place]
    match most with
    | some bound => reachable (body.ends text) (bound - least) start
    | none => reachable (body.ends text) (text.size + 1) start

def matchesWithin (regex : Regex) (text : String) : Bool :=
  let chars := text.toList.toArray
  (List.range (chars.size + 1)).any fun place => !(regex.ends chars place).isEmpty

end Regex

end FleetSearch.Pattern
