import FleetSearch.Text.Utf8

/-! The UTF-8 form of a text is read as the text. -/

namespace FleetSearch.Text

section Bytes

variable {byte count bits least most : Nat} {rest : List Nat}

theorem decodeFrom_ascii (plain : byte < 0x80) :
    decodeFrom none (byte :: rest) = some (Char.ofNat byte) :: decodeFrom none rest := by
  simp [decodeFrom, startChar, plain]

theorem decodeFrom_lead (first : 0x80 ≤ byte)
    (leads : lead? byte = some ⟨count, bits, least, most⟩) :
    decodeFrom none (byte :: rest) = decodeFrom (some ⟨count, bits, least, most⟩) rest := by
  have high : ¬ byte < 0x80 := Nat.not_lt.mpr first
  simp [decodeFrom, startChar, high, leads]

theorem decodeFrom_next (within : least ≤ byte ∧ byte ≤ most) :
    decodeFrom (some ⟨count + 2, bits, least, most⟩) (byte :: rest) =
      decodeFrom (some ⟨count + 1, bits * 64 + byte % 64, 0x80, 0xbf⟩) rest := by
  simp [decodeFrom, within]

theorem decodeFrom_last (within : least ≤ byte ∧ byte ≤ most) :
    decodeFrom (some ⟨1, bits, least, most⟩) (byte :: rest) =
      some (Char.ofNat (bits * 64 + byte % 64)) :: decodeFrom none rest := by
  simp [decodeFrom, within]

end Bytes

section Leads

variable {code : Nat}

theorem lead?_two (low : 0x80 ≤ code) (high : code < 0x800) :
    lead? (0xc0 + code / 64) = some ⟨1, code / 64, 0x80, 0xbf⟩ := by
  rw [lead?, if_pos (by omega), Nat.add_sub_cancel_left]

/-- The second byte of three is in the range that the first one leaves to it: no longer form than
needed, and no half of a pair. -/
theorem lead?_three (low : 0x800 ≤ code) (high : code < 0x10000)
    (valid : code < 0xd800 ∨ 0xdfff < code) :
    ∃ least most, lead? (0xe0 + code / 4096) = some ⟨2, code / 4096, least, most⟩ ∧
      least ≤ 0x80 + code / 64 % 64 ∧ 0x80 + code / 64 % 64 ≤ most := by
  rw [lead?, if_neg (by omega)]
  by_cases zero : code / 4096 = 0
  · rw [if_pos (by omega), zero]
    exact ⟨_, _, rfl, by omega, by omega⟩
  rw [if_neg (by omega)]
  by_cases pairs : code / 4096 = 13
  · rw [if_pos (by omega), pairs]
    exact ⟨_, _, rfl, by omega, by omega⟩
  rw [if_neg (by omega), if_pos (by omega), Nat.add_sub_cancel_left]
  exact ⟨_, _, rfl, by omega, by omega⟩

theorem lead?_four (low : 0x10000 ≤ code) (high : code < 0x110000) :
    ∃ least most, lead? (0xf0 + code / 262144) = some ⟨3, code / 262144, least, most⟩ ∧
      least ≤ 0x80 + code / 4096 % 64 ∧ 0x80 + code / 4096 % 64 ≤ most := by
  rw [lead?, if_neg (by omega), if_neg (by omega), if_neg (by omega), if_neg (by omega)]
  by_cases zero : code / 262144 = 0
  · rw [if_pos (by omega), zero]
    exact ⟨_, _, rfl, by omega, by omega⟩
  rw [if_neg (by omega)]
  by_cases last : code / 262144 = 4
  · rw [if_neg (by omega), if_pos (by omega), last]
    exact ⟨_, _, rfl, by omega, by omega⟩
  rw [if_pos (by omega), Nat.add_sub_cancel_left]
  exact ⟨_, _, rfl, by omega, by omega⟩

end Leads

theorem decodeFrom_encodeChar (c : Char) (rest : List Nat) :
    decodeFrom none (encodeChar c ++ rest) = some c :: decodeFrom none rest := by
  have valid : c.toNat < 0xd800 ∨ 0xdfff < c.toNat ∧ c.toNat < 0x110000 := c.valid
  have back {bits : Nat} (same : bits = c.toNat) : Char.ofNat bits = c :=
    same ▸ Char.ofNat_toNat c
  dsimp only [encodeChar]
  split
  · rename_i plain
    rw [List.singleton_append, decodeFrom_ascii plain, back rfl]
  split
  · rename_i ascii two
    rw [List.cons_append, decodeFrom_lead (by omega) (lead?_two (Nat.not_lt.mp ascii) two),
      List.singleton_append, decodeFrom_last (by omega), back (by omega)]
  split
  · rename_i ascii two three
    obtain ⟨least, most, leads, within⟩ :=
      lead?_three (Nat.not_lt.mp two) three (valid.imp_right And.left)
    rw [List.cons_append, decodeFrom_lead (by omega) leads, List.cons_append,
      decodeFrom_next within, List.singleton_append, decodeFrom_last (by omega), back (by omega)]
  · rename_i ascii two three
    obtain ⟨least, most, leads, within⟩ := lead?_four (Nat.not_lt.mp three) (by omega)
    rw [List.cons_append, decodeFrom_lead (by omega) leads, List.cons_append,
      decodeFrom_next within, List.cons_append, decodeFrom_next (by omega),
      List.singleton_append, decodeFrom_last (by omega), back (by omega)]

theorem decodeFrom_encodeUtf8 (chars : List Char) :
    decodeFrom none (encodeUtf8 chars) = chars.map some := by
  induction chars with
  | nil => rfl
  | cons c rest ih =>
    rw [encodeUtf8, List.flatMap_cons, ← encodeUtf8, decodeFrom_encodeChar, ih, List.map_cons]

/-- The bytes of a text are read as the text. -/
theorem decodeUtf8?_encodeUtf8 (chars : List Char) :
    decodeUtf8? (encodeUtf8 chars) = some chars := by
  rw [decodeUtf8?, decodeFrom_encodeUtf8]
  induction chars with
  | nil => rfl
  | cons c rest ih =>
    rw [List.map_cons, List.mapM_cons, ih]
    rfl

end FleetSearch.Text
