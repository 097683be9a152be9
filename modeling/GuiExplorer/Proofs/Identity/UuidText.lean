import GuiExplorer.Identity.Uuid

/-!
# Identifiers that are read back

The text of an identifier is read back as that identifier.
-/

namespace GuiExplorer.Uuid

theorem hexValue?_hexDigit {digit : UInt8} (small : digit < 16) :
    hexValue? (hexDigit digit) = some digit := by
  have each : ∀ value < 16,
      hexValue? (hexDigit (UInt8.ofNat value)) = some (UInt8.ofNat value) := by
    decide
  simpa using each digit.toNat (UInt8.lt_iff_toNat_lt.mp small)

theorem halves_eq (byte : UInt8) : byte / 16 * 16 + byte % 16 = byte := by
  have bound := byte.toNat_lt
  rw [← UInt8.toNat_inj]
  simp only [UInt8.toNat_add, UInt8.toNat_mul, UInt8.toNat_div, UInt8.toNat_mod,
    UInt8.reduceToNat]
  omega

theorem half_lt (byte : UInt8) : byte / 16 < 16 ∧ byte % 16 < 16 := by
  have bound := byte.toNat_lt
  simp only [UInt8.lt_iff_toNat_lt, UInt8.toNat_div, UInt8.toNat_mod, UInt8.reduceToNat]
  omega

/-- Bytes are read back from their digits. -/
theorem hexBytes?_flatMap (bytes : List UInt8) :
    hexBytes? (bytes.flatMap hexByte) = some bytes := by
  induction bytes with
  | nil => rfl
  | cons byte rest ih =>
      have high : hexValue? (hexDigit (byte / 16)) = some (byte / 16) :=
        hexValue?_hexDigit (half_lt byte).1
      have low : hexValue? (hexDigit (byte % 16)) = some (byte % 16) :=
        hexValue?_hexDigit (half_lt byte).2
      simp [hexByte, hexBytes?, high, low, ih, halves_eq]

/-- The text of an identifier has the length of grouped digits, and without the hyphens it
is the digits of all bytes. -/
theorem ofChars?_chars (id : Uuid) : ofChars? id.chars = ofPlain? (id.bytes.flatMap hexByte) := by
  obtain ⟨bytes, size_eq⟩ := id
  match bytes, size_eq with
  | [_, _, _, _, _, _, _, _, _, _, _, _, _, _, _, _], _ => rfl

/-- An identifier is read back from its text. -/
theorem ofText?_text (id : Uuid) : ofText? id.text = some id := by
  rw [ofText?, text, String.toList_ofList, ofChars?_chars, ofPlain?, hexBytes?_flatMap,
    Option.bind_some, ofBytes?, dif_pos id.size_eq]

end GuiExplorer.Uuid
