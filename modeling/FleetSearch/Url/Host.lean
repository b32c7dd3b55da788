import FleetSearch.Text.Digits
import FleetSearch.Text.Split

/-! Numeric hosts. -/

namespace FleetSearch.Url

/-- A number of an IPv4 address: hexadecimal behind `0x`, octal behind a zero. -/
def ipv4Number? : List Char → Option Nat
  | [] => none
  | ['0'] => some 0
  | '0' :: c :: rest =>
    if c = 'x' ∨ c = 'X' then if rest.isEmpty then some 0 else Text.natural? 16 rest
    else Text.natural? 8 (c :: rest)
  | chars => Text.natural? 10 chars

/-- The labels of a name; the empty one behind a final dot does not count. -/
def labels (name : List Char) : List (List Char) :=
  let parts := Text.splitChars '.' name
  if parts.getLast? = some [] then parts.dropLast else parts

/-- Whether the last label of a name is a number, so that the name has to be an IPv4 address. -/
def endsInNumber (name : List Char) : Bool :=
  match (labels name).getLast? with
  | some label => (!label.isEmpty && label.all Char.isDigit) || (ipv4Number? label).isSome
  | none => false

/-- The value of the numbers of an IPv4 address; the last one fills all bytes that are left. -/
def ipv4Value? (numbers : List Nat) : Option Nat :=
  match numbers.reverse with
  | [] => none
  | last :: before =>
    let places := before.length
    if places > 3 ∨ last ≥ Nat.pow 256 (4 - places) ∨ before.any (· > 255) then none
    else
      some (before.zipIdx.foldl
        (fun total (n, i) => total + n * Nat.pow 256 (4 - places + i)) last)

def ipv4Write (value : Nat) : String :=
  let bytes := [value / 16777216, value / 65536 % 256, value / 256 % 256, value % 256]
  Text.join "." (bytes.map Text.decimal)

def ipv4? (name : List Char) : Option String := do
  ipv4Write <$> ipv4Value? (← (labels name).mapM ipv4Number?)

def dottedGroups? (chars : List Char) : Option (List Nat) := do
  let parts := Text.splitChars '.' chars
  let numbers ← parts.mapM fun part => do
    let value ← Text.natural? 10 part
    if value > 255 ∨ (1 < part.length ∧ part.head? = some '0') then none else some value
  match numbers with
  | [a, b, c, d] => some [a * 256 + b, c * 256 + d]
  | _ => none

/-- Groups of up to four hexadecimal digits, the last of which may be an IPv4 address. -/
def groups? (dotted : Bool) : List (List Char) → Option (List Nat)
  | [] => some []
  | [part] =>
    if dotted && part.contains '.' then dottedGroups? part
    else if part.length > 4 then none
    else (Text.natural? 16 part).map fun value => [value]
  | part :: rest =>
    if part.length > 4 then none
    else do
      let value ← Text.natural? 16 part
      (groups? dotted rest).map (value :: ·)

/-- The groups of an address without its double colon. -/
def halfGroups? (dotted : Bool) (chars : List Char) : Option (List Nat) :=
  if chars.isEmpty then some [] else groups? dotted (Text.splitChars ':' chars)

/-- The text before and behind the first double colon. -/
def cutDoubleColon : List Char → Option (List Char × List Char)
  | ':' :: ':' :: rest => some ([], rest)
  | c :: rest => (cutDoubleColon rest).map fun (before, behind) => (c :: before, behind)
  | [] => none

def ipv6Groups? (chars : List Char) : Option (List Nat) :=
  match cutDoubleColon chars with
  | some (before, behind) => do
    let front ← halfGroups? false before
    let back ← halfGroups? true behind
    let known := front.length + back.length
    if known > 7 then none else some (front ++ List.replicate (8 - known) 0 ++ back)
  | none => do
    let groups ← halfGroups? true chars
    if groups.length = 8 then some groups else none

/-- How many zeros lead a list. -/
def leadingZeros (groups : List Nat) : Nat := (groups.takeWhile (· == 0)).length

/-- The place and length of the longest row of zeros, the first of equal ones. -/
def longestZeros : Nat → List Nat → Nat × Nat
  | place, [] => (place, 0)
  | place, group :: rest =>
    let here := leadingZeros (group :: rest)
    let later := longestZeros (place + 1) rest
    if here ≥ later.2 then (place, here) else later

def groupsWrite (groups : List Nat) : String :=
  Text.join ":" (groups.map fun group => String.ofList (Text.digits 16 group))

def ipv6Write (groups : List Nat) : String :=
  let (place, count) := longestZeros 0 groups
  if count < 2 then groupsWrite groups
  else groupsWrite (groups.take place) ++ "::" ++ groupsWrite (groups.drop (place + count))

def ipv6? (chars : List Char) : Option String :=
  (ipv6Groups? chars).map fun groups => "[" ++ ipv6Write groups ++ "]"

end FleetSearch.Url
