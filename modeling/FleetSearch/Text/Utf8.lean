/-! The UTF-8 form of text, and reading of bytes that may be no such form: every longest start of
a character that breaks off stands for one replacement character. -/

namespace FleetSearch.Text

def encodeChar (c : Char) : List Nat :=
  let code := c.toNat
  if code < 0x80 then [code]
  else if code < 0x800 then [0xc0 + code / 64, 0x80 + code % 64]
  else if code < 0x10000 then [0xe0 + code / 4096, 0x80 + code / 64 % 64, 0x80 + code % 64]
  else [0xf0 + code / 262144, 0x80 + code / 4096 % 64, 0x80 + code / 64 % 64, 0x80 + code % 64]

def encodeUtf8 (chars : List Char) : List Nat :=
  chars.flatMap encodeChar

/-- How many bytes follow a first byte, the bits it contributes, and the range of the second. -/
structure Lead where
  count : Nat
  bits : Nat
  low : Nat
  high : Nat

/-- The role of a byte that starts a character of several bytes. -/
def lead? (byte : Nat) : Option Lead :=
  if 0xc2 ≤ byte ∧ byte ≤ 0xdf then some ⟨1, byte - 0xc0, 0x80, 0xbf⟩
  else if byte = 0xe0 then some ⟨2, 0, 0xa0, 0xbf⟩
  else if byte = 0xed then some ⟨2, 13, 0x80, 0x9f⟩
  else if 0xe1 ≤ byte ∧ byte ≤ 0xef then some ⟨2, byte - 0xe0, 0x80, 0xbf⟩
  else if byte = 0xf0 then some ⟨3, 0, 0x90, 0xbf⟩
  else if 0xf1 ≤ byte ∧ byte ≤ 0xf3 then some ⟨3, byte - 0xf0, 0x80, 0xbf⟩
  else if byte = 0xf4 then some ⟨3, 4, 0x80, 0x8f⟩
  else none

/-- A character begun: the bytes that are missing, the bits so far and the range of the next. -/
structure Begun where
  missing : Nat
  bits : Nat
  low : Nat
  high : Nat

/-- The replacement for bytes that are no character. -/
def replacement : Char := '\ufffd'

def startChar (byte : Nat) : List (Option Char) × Option Begun :=
  if byte < 0x80 then ([some (Char.ofNat byte)], none)
  else match lead? byte with
    | some lead => ([], some ⟨lead.count, lead.bits, lead.low, lead.high⟩)
    | none => ([none], none)

/-- Reads bytes behind a character begun, if any; `none` marks bytes that are no character. -/
def decodeFrom : Option Begun → List Nat → List (Option Char)
  | none, [] => []
  | some _, [] => [none]
  | none, byte :: rest =>
    let (found, begun) := startChar byte
    found ++ decodeFrom begun rest
  | some begun, byte :: rest =>
    if begun.low ≤ byte ∧ byte ≤ begun.high then
      let bits := begun.bits * 64 + byte % 64
      if begun.missing ≤ 1 then some (Char.ofNat bits) :: decodeFrom none rest
      else decodeFrom (some ⟨begun.missing - 1, bits, 0x80, 0xbf⟩) rest
    else
      let (found, next) := startChar byte
      none :: found ++ decodeFrom next rest

/-- The text of bytes, with a replacement for what is no character. -/
def decodeLossy (bytes : List Nat) : List Char :=
  (decodeFrom none bytes).map fun found => found.getD replacement

def decodeUtf8? (bytes : List Nat) : Option (List Char) :=
  (decodeFrom none bytes).mapM id

end FleetSearch.Text
