import FleetSearch.Proofs.Text.Utf8
import FleetSearch.Proofs.Url.Percent

/-! What is percent-encoded is decoded again, if the percent sign itself is never left as it is. -/

namespace FleetSearch

theorem Text.encodeUtf8_injective {first second : List Char}
    (same : Text.encodeUtf8 first = Text.encodeUtf8 second) : first = second := by
  have read := congrArg Text.decodeUtf8? same
  rw [Text.decodeUtf8?_encodeUtf8, Text.decodeUtf8?_encodeUtf8] at read
  exact Option.some.inj read

namespace Url

variable {isSafe : Char → Bool} {chars first second : List Char} {c : Char}

theorem percentDecode_cons_of_ne (plain : c ≠ '%') (rest : List Char) :
    percentDecode (c :: rest) = Text.encodeChar c ++ percentDecode rest := by
  rw [percentDecode]
  exact fun _ _ _ same _ => plain same

theorem digitValue?_upperDigit {value : Nat} (small : value < 16) :
    Text.digitValue? 16 (upperDigit value) = some value := by
  interval_cases value <;> decide

theorem percentDecode_percentByte {byte : Nat} (small : byte < 256) (rest : List Char) :
    percentDecode (percentByte byte ++ rest) = byte :: percentDecode rest := by
  have digits : Text.natural? 16 [upperDigit (byte / 16), upperDigit (byte % 16)] =
      some byte := by
    have high : byte / 16 < 16 := by omega
    have low : byte % 16 < 16 := by omega
    have whole : byte / 16 * 16 + byte % 16 = byte := Nat.div_add_mod' byte 16
    simp [Text.natural?, Text.readDigits, digitValue?_upperDigit high, digitValue?_upperDigit low,
      whole]
  rw [percentByte, List.cons_append, List.cons_append, List.cons_append, List.nil_append,
    percentDecode, digits]

theorem percentDecode_flatMap_percentByte {bytes : List Nat} (small : ∀ byte ∈ bytes, byte < 256)
    (rest : List Char) :
    percentDecode (bytes.flatMap percentByte ++ rest) = bytes ++ percentDecode rest := by
  induction bytes with
  | nil => rfl
  | cons byte bytes ih =>
    obtain ⟨own, others⟩ := List.forall_mem_cons.mp small
    rw [List.flatMap_cons, List.append_assoc, percentDecode_percentByte own, ih others,
      List.cons_append]

theorem percentDecode_percentEncode (marked : isSafe '%' = false) (chars : List Char) :
    percentDecode (percentEncode isSafe chars) = Text.encodeUtf8 chars := by
  induction chars with
  | nil => simp [percentEncode, percentDecode, Text.encodeUtf8]
  | cons c rest ih =>
    rw [percentEncode, List.flatMap_cons, ← percentEncode, Text.encodeUtf8, List.flatMap_cons,
      ← Text.encodeUtf8, ← ih]
    split
    · rename_i safe
      have plain : c ≠ '%' := by
        rintro rfl
        rw [marked] at safe
        cases safe
      rw [List.singleton_append, percentDecode_cons_of_ne plain]
    · exact percentDecode_flatMap_percentByte (fun byte => Text.encodeChar_lt) _

theorem percentEncode_injective (marked : isSafe '%' = false)
    (same : percentEncode isSafe first = percentEncode isSafe second) : first = second := by
  have bytes := congrArg percentDecode same
  rw [percentDecode_percentEncode marked, percentDecode_percentEncode marked] at bytes
  exact Text.encodeUtf8_injective bytes

end Url

end FleetSearch
