import FleetSearch.Network.Header
import FleetSearch.Text.Split
import FleetSearch.Text.Utf8

/-! Addresses in requests: a path with a query, a whole address, an authority alone, or an
asterisk. -/

namespace FleetSearch.Web

/-- What a request is about. -/
structure Target where
  path : String
  query : Option String := none
deriving DecidableEq, Repr

def isPathChar (c : Char) : Bool :=
  let code := c.toNat
  code == 0x21 || (0x24 ≤ code && code ≤ 0x3b) || code == 0x3d ||
    (0x40 ≤ code && code ≤ 0x5f) || (0x61 ≤ code && code ≤ 0x7a) || code == 0x7c || 0x7e ≤ code ||
    c == '"' || c == '\x7b' || c == '\x7d'

def isQueryChar (c : Char) : Bool :=
  let code := c.toNat
  code == 0x21 || (0x24 ≤ code && code ≤ 0x3b) || code == 0x3d || 0x3f ≤ code

/-- Whether a character may stand in an authority; a percent sign only before an at sign or inside
brackets. -/
def isAuthorityChar (c : Char) : Bool :=
  c.isAlphanum || "!$&'()*+,-.:;=@[]_~%".toList.contains c

def isSchemeChar (c : Char) : Bool :=
  c.isAlphanum || c == '+' || c == '-' || c == '.'

/-- What a check of an authority has met since the last at sign or bracket. -/
structure Passed where
  colons : Nat := 0
  isOpened : Bool := false
  isClosed : Bool := false
  hasPercent : Bool := false
  /-- Whether the last character was an at sign. -/
  endsAtSign : Bool := false

/-- Goes on by one character of an authority; `none` where it cannot stand. -/
def Passed.next (passed : Passed) (c : Char) : Option Passed :=
  let passed := { passed with endsAtSign := false }
  match c with
  | ':' => if passed.colons < 8 then some { passed with colons := passed.colons + 1 } else none
  | '[' =>
    if passed.hasPercent || passed.isOpened then none else some { passed with isOpened := true }
  | ']' =>
    if !passed.isOpened || passed.isClosed then none
    else some { passed with isClosed := true, colons := 0, hasPercent := false }
  | '@' => some { passed with colons := 0, hasPercent := false, endsAtSign := true }
  | '%' => some { passed with hasPercent := true }
  | _ => if isAuthorityChar c then some passed else none

/-- Whether characters are an authority: at most one port, closed brackets, something behind the
at sign. -/
def isAuthority (chars : List Char) : Bool :=
  match chars.foldlM Passed.next {} with
  | some passed =>
    passed.isOpened == passed.isClosed && passed.colons ≤ 1 && !passed.endsAtSign &&
      !passed.hasPercent
  | none => false

def cutAuthority (chars : List Char) : List Char × List Char :=
  chars.span fun c => !(c == '/' || c == '?' || c == '#')

def behindScheme? (chars : List Char) : Option (List Char) :=
  let (scheme, rest) := chars.span isSchemeChar
  match rest with
  | ':' :: '/' :: '/' :: rest => if scheme.length ≤ 64 then some rest else none
  | _ => none

/-- A path with a query; a fragment does not count. -/
def pathAndQuery? (chars : List Char) : Option Target :=
  let chars := chars.takeWhile (· != '#')
  let (path, rest) := chars.span (· != '?')
  let query := rest.drop 1
  if path.all isPathChar && query.all isQueryChar then
    some
      { path := if path.isEmpty then "/" else String.ofList path
        query := if rest.isEmpty then none else some (String.ofList query) }
  else none

/-- The longest address, in bytes. -/
def longestTarget : Nat := Nat.pow 2 16 - 2

namespace Target

/-- The target of a whole address. -/
def ofAddress? (chars : List Char) : Option Target :=
  match behindScheme? chars with
  | some rest =>
    let (authority, rest) := cutAuthority rest
    if authority.isEmpty || !isAuthority authority then none else pathAndQuery? rest
  | none => if isAuthority chars then some { path := "" } else none

def read? (text : String) : Option Target :=
  if longestTarget < text.utf8ByteSize then none
  else match text.toList with
    | [] => none
    | ['*'] => some { path := "*" }
    | '/' :: rest => pathAndQuery? ('/' :: rest)
    | chars => ofAddress? chars

end Target

end FleetSearch.Web
