/-! The bootstring code of labels of domain names: code points outside of ASCII in ascending
order, each as a difference, in numbers of variable length with thresholds that adapt. -/

namespace FleetSearch.Url.Punycode

def digitChar (value : Nat) : Char :=
  if value < 26 then Char.ofNat (0x61 + value) else Char.ofNat (0x30 + value - 26)

def digitValue? (c : Char) : Option Nat :=
  if 'a' ≤ c ∧ c ≤ 'z' then some (c.toNat - 0x61)
  else if 'A' ≤ c ∧ c ≤ 'Z' then some (c.toNat - 0x41)
  else if '0' ≤ c ∧ c ≤ '9' then some (c.toNat - 0x30 + 26)
  else none

def threshold (position bias : Nat) : Nat :=
  if position ≤ bias then 1 else if position ≥ bias + 26 then 26 else position - bias

def biasFrom (delta position : Nat) : Nat :=
  if 455 < delta then biasFrom (delta / 35) (position + 36)
  else position + 36 * delta / (delta + 38)
termination_by delta
decreasing_by exact Nat.div_lt_self (by omega) (by omega)

def adapt (delta count : Nat) (first : Bool) : Nat :=
  let scaled := if first then delta / 700 else delta / 2
  biasFrom (scaled + scaled / count) 0

/-- The digits of a difference; the fuel bounds their number. -/
def differenceDigits (bias : Nat) : Nat → Nat → Nat → List Char
  | 0, _, _ => []
  | fuel + 1, position, value =>
    let limit := threshold position bias
    if value < limit then [digitChar value]
    else
      digitChar (limit + (value - limit) % (36 - limit)) ::
        differenceDigits bias fuel (position + 36) ((value - limit) / (36 - limit))

/-- The state of encoding: the code point reached, the difference so far, how many code points
are written, and the bias. -/
structure State where
  code : Nat
  delta : Nat
  count : Nat
  bias : Nat

def encodePass (target basic : Nat) : State → List Nat → List Char × State
  | state, [] => ([], { state with delta := state.delta + 1, code := target + 1 })
  | state, code :: rest =>
    if code < target then encodePass target basic { state with delta := state.delta + 1 } rest
    else if code = target then
      let digits := differenceDigits state.bias (state.delta + 1) 36 state.delta
      let bias := adapt state.delta (state.count + 1) (state.count == basic)
      let (more, state) := encodePass target basic
        { state with delta := 0, count := state.count + 1, bias } rest
      (digits ++ more, state)
    else encodePass target basic state rest

def leastFrom (bound : Nat) (codes : List Nat) : Option Nat :=
  (codes.filter (bound ≤ ·)).min?

/-- The digits of all passes; the fuel bounds their number. -/
def encodePasses (codes : List Nat) (basic : Nat) : Nat → State → List Char
  | 0, _ => []
  | fuel + 1, state =>
    match leastFrom state.code codes with
    | none => []
    | some target =>
      let delta := state.delta + (target - state.code) * (state.count + 1)
      let (digits, state) := encodePass target basic { state with delta } codes
      digits ++ encodePasses codes basic fuel state

def encode (label : List Char) : List Char :=
  let basic := label.filter fun c => c.toNat < 0x80
  let codes := label.map Char.toNat
  let start := if basic.isEmpty then [] else basic ++ ['-']
  start ++ encodePasses codes basic.length codes.length ⟨0x80, 0, basic.length, 72⟩

/-- A difference, from its first digit on: the difference and what follows. -/
def readDifference? (bias : Nat) : Nat → Nat → Nat → List Char → Option (Nat × List Char)
  | _, _, _, [] => none
  | position, weight, value, c :: rest => do
    let digit ← digitValue? c
    let value := value + digit * weight
    let limit := threshold position bias
    if digit < limit then some (value, rest)
    else readDifference? bias (position + 36) (weight * (36 - limit)) value rest

/-- Inserts the code points that differences stand for. The fuel bounds their number. -/
def decodeFrom? : Nat → Nat → Nat → Nat → List Char → List Char → Option (List Char)
  | 0, _, _, _, _, _ => none
  | _ + 1, _, _, _, found, [] => some found
  | fuel + 1, code, place, bias, found, digits => do
    let (difference, rest) ← readDifference? bias 36 1 0 digits
    let count := found.length + 1
    let total := place + difference
    let next := code + total / count
    let index := total % count
    if next > 0x10ffff ∨ (0xd800 ≤ next ∧ next ≤ 0xdfff) then none
    else
      let longer := found.take index ++ Char.ofNat next :: found.drop index
      decodeFrom? fuel next (index + 1) (adapt difference count (place == 0)) longer rest

/-- The characters before the last hyphen, and those behind it. -/
def cutLast (label : List Char) : List Char × List Char :=
  let behind := (label.reverse.takeWhile (· != '-')).reverse
  if behind.length = label.length then ([], label)
  else (label.take (label.length - behind.length - 1), behind)

def decode? (code : List Char) : Option (List Char) :=
  let (basic, digits) := cutLast code
  decodeFrom? (digits.length + 1) 0x80 0 72 basic digits

end FleetSearch.Url.Punycode
