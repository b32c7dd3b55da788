import FleetSearch.Text.Digits
import FleetSearch.Text.Utf8

/-! Percent-encoding: a byte that may not stand for itself is written with a percent sign and two
hexadecimal digits. -/

namespace FleetSearch.Url

/-- A digit of an encoded byte, in upper case. -/
def upperDigit (value : Nat) : Char :=
  (Text.digitChar value).toUpper

def percentByte (byte : Nat) : List Char :=
  ['%', upperDigit (byte / 16), upperDigit (byte % 16)]

/-- Characters with the bytes of all that may not stand for themselves encoded. -/
def percentEncode (isSafe : Char → Bool) (chars : List Char) : List Char :=
  chars.flatMap fun c => if isSafe c then [c] else (Text.encodeChar c).flatMap percentByte

/-- The bytes of text in which encoded bytes are decoded; a percent sign without two digits
stands for itself. -/
def percentDecode : List Char → List Nat
  | [] => []
  | '%' :: a :: b :: rest =>
    match Text.natural? 16 [a, b] with
    | some byte => byte :: percentDecode rest
    | none => 0x25 :: percentDecode (a :: b :: rest)
  | c :: rest => Text.encodeChar c ++ percentDecode rest
termination_by chars => chars.length

def isVisible (c : Char) : Bool := 0x20 ≤ c.toNat && c.toNat < 0x7f

def isFragmentSafe (c : Char) : Bool :=
  isVisible c && !([' ', '"', '<', '>', '\x60'].contains c)

def isPathSafe (c : Char) : Bool :=
  isFragmentSafe c && !(['#', '?', '\x7b', '\x7d'].contains c)

def isSegmentSafe (special : Bool) (c : Char) : Bool :=
  isPathSafe c && c != '/' && c != '%' && !(special && c == '\\')

def isUserSafe (c : Char) : Bool :=
  isPathSafe c && !(['/', ':', ';', '=', '@', '[', '\\', ']', '^', '|'].contains c)

def isQuerySafe (special : Bool) (c : Char) : Bool :=
  isVisible c && !([' ', '"', '#', '<', '>'].contains c) && !(special && c == '\'')

end FleetSearch.Url
