import GuiExplorer.Text.Utf8

/-!
# UTF-8 that is read back

Bytes are decoded to a text exactly if they are the bytes of that text: each
character has one encoding, and nothing else is accepted.
-/

namespace GuiExplorer.Text

theorem isContinuation_iff {byte : UInt8} :
    isContinuation byte = true ↔ 0x80 ≤ byte.toNat ∧ byte.toNat ≤ 0xBF := by
  simp [isContinuation, UInt8.le_iff_toNat_le]

/-- The second byte of a three-byte character continues it, and the first two bytes make
neither a shorter character nor a surrogate. -/
theorem admitsSecondOfThree_iff {first second : UInt8} :
    admitsSecondOfThree first second = true ↔
      (0x80 ≤ second.toNat ∧ second.toNat ≤ 0xBF) ∧
        (first.toNat = 0xE0 → 0xA0 ≤ second.toNat) ∧
        (first.toNat = 0xED → second.toNat ≤ 0x9F) := by
  simp only [admitsSecondOfThree, ← UInt8.toNat_inj, UInt8.reduceToNat]
  split
  case isTrue least => simp [UInt8.le_iff_toNat_le, least]; omega
  case isFalse =>
    split
    case isTrue surrogate => simp [UInt8.le_iff_toNat_le, surrogate]; omega
    case isFalse => simp [isContinuation_iff, *]

/-- The second byte of a four-byte character continues it, and the first two bytes make
neither a shorter character nor a code above all characters. -/
theorem admitsSecondOfFour_iff {first second : UInt8} :
    admitsSecondOfFour first second = true ↔
      (0x80 ≤ second.toNat ∧ second.toNat ≤ 0xBF) ∧
        (first.toNat = 0xF0 → 0x90 ≤ second.toNat) ∧
        (first.toNat = 0xF4 → second.toNat ≤ 0x8F) := by
  simp only [admitsSecondOfFour, ← UInt8.toNat_inj, UInt8.reduceToNat]
  split
  case isTrue least => simp [UInt8.le_iff_toNat_le, least]; omega
  case isFalse =>
    split
    case isTrue greatest => simp [UInt8.le_iff_toNat_le, greatest]; omega
    case isFalse => simp [isContinuation_iff, *]

/-! ## Characters that were read -/

theorem toNat_val_ofNat {code : Nat} (valid : code.isValidChar) :
    (Char.ofNat code).val.toNat = code := by
  rw [Char.ofNat, dif_pos valid]
  rfl

theorem encode_one {first : UInt8} (ascii : first.toNat < 0x80) :
    String.utf8EncodeChar (Char.ofNat first.toNat) = [first] := by
  have valid : first.toNat.isValidChar := .inl (by omega)
  simp only [String.utf8EncodeChar, toNat_val_ofNat valid]
  rw [if_pos (by omega), UInt8.ofNat_toNat]

theorem encode_two {first second : UInt8}
    (lead : 0xC2 ≤ first.toNat ∧ first.toNat ≤ 0xDF) (tail : isContinuation second = true) :
    String.utf8EncodeChar
        (Char.ofNat (first.toNat % 32 * 64 + continuationBits second)) =
      [first, second] := by
  rw [isContinuation_iff] at tail
  unfold continuationBits
  generalize code : first.toNat % 32 * 64 + second.toNat % 64 = value
  have valid : value.isValidChar := .inl (by omega)
  simp only [String.utf8EncodeChar, toNat_val_ofNat valid]
  rw [if_neg (by omega), if_pos (by omega)]
  simp only [List.cons.injEq, ← UInt8.toNat_inj, UInt8.toNat_ofNat', and_true]
  omega

theorem encode_three {first second third : UInt8}
    (lead : 0xE0 ≤ first.toNat ∧ first.toNat ≤ 0xEF)
    (second_ok : admitsSecondOfThree first second = true) (tail : isContinuation third = true) :
    String.utf8EncodeChar
        (Char.ofNat (first.toNat % 16 * 4096 + continuationBits second * 64 +
          continuationBits third)) =
      [first, second, third] := by
  rw [isContinuation_iff] at tail
  rw [admitsSecondOfThree_iff] at second_ok
  unfold continuationBits
  generalize code : first.toNat % 16 * 4096 + second.toNat % 64 * 64 + third.toNat % 64 = value
  have valid : value.isValidChar := by
    unfold Nat.isValidChar
    omega
  simp only [String.utf8EncodeChar, toNat_val_ofNat valid]
  rw [if_neg (by omega), if_neg (by omega), if_pos (by omega)]
  simp only [List.cons.injEq, ← UInt8.toNat_inj, UInt8.toNat_ofNat', and_true]
  omega

theorem encode_four {first second third fourth : UInt8}
    (lead : 0xF0 ≤ first.toNat ∧ first.toNat ≤ 0xF4)
    (second_ok : admitsSecondOfFour first second = true) (tail : isContinuation third = true)
    (last : isContinuation fourth = true) :
    String.utf8EncodeChar
        (Char.ofNat (first.toNat % 8 * 262144 + continuationBits second * 4096 +
          continuationBits third * 64 + continuationBits fourth)) =
      [first, second, third, fourth] := by
  rw [isContinuation_iff] at tail last
  rw [admitsSecondOfFour_iff] at second_ok
  unfold continuationBits
  generalize code : first.toNat % 8 * 262144 + second.toNat % 64 * 4096 +
    third.toNat % 64 * 64 + fourth.toNat % 64 = value
  have valid : value.isValidChar := by
    unfold Nat.isValidChar
    omega
  simp only [String.utf8EncodeChar, toNat_val_ofNat valid]
  rw [if_neg (by omega), if_neg (by omega), if_neg (by omega)]
  simp only [List.cons.injEq, ← UInt8.toNat_inj, UInt8.toNat_ofNat', and_true]
  omega

/-- A character that was read is encoded by the bytes it was read from. -/
theorem eq_encode_of_utf8Head
    {first : UInt8} {more rest : List UInt8} {c : Char} {size : Nat}
    (read : utf8Head first more = .char c size rest) :
    first :: more = String.utf8EncodeChar c ++ rest := by
  simp only [utf8Head, UInt8.lt_iff_toNat_lt, UInt8.le_iff_toNat_le, UInt8.reduceToNat,
    Bool.and_eq_true, decide_eq_true_eq] at read
  repeat' split at read
  all_goals cases read
  case isTrue ascii => rw [encode_one ascii]; rfl
  case h_2.isTrue lead _ _ tail => rw [encode_two lead tail]; rfl
  case h_2.isTrue lead _ _ second_ok _ _ tail => rw [encode_three lead second_ok tail]; rfl
  case h_2.isTrue lead _ _ second_ok _ _ tail _ _ last =>
    rw [encode_four lead second_ok tail last]; rfl

/-! ## Characters that are read back -/

section

variable {first second third fourth : UInt8}

theorem utf8Head_one (ascii : first.toNat < 0x80) (rest : List UInt8) :
    utf8Head first rest = .char (Char.ofNat first.toNat) 1 rest := by
  simp only [utf8Head, UInt8.lt_iff_toNat_lt, UInt8.reduceToNat]
  rw [if_pos ascii]

theorem utf8Head_two
    (lead : 0xC2 ≤ first.toNat ∧ first.toNat ≤ 0xDF) (tail : isContinuation second = true)
    (rest : List UInt8) :
    utf8Head first (second :: rest) =
      .char (Char.ofNat (first.toNat % 32 * 64 + continuationBits second)) 2 rest := by
  simp only [utf8Head, UInt8.lt_iff_toNat_lt, UInt8.le_iff_toNat_le, UInt8.reduceToNat,
    Bool.and_eq_true, decide_eq_true_eq]
  rw [if_neg (by omega), if_pos lead, if_pos tail]

theorem utf8Head_three
    (lead : 0xE0 ≤ first.toNat ∧ first.toNat ≤ 0xEF)
    (admitted : admitsSecondOfThree first second = true) (tail : isContinuation third = true)
    (rest : List UInt8) :
    utf8Head first (second :: third :: rest) =
      .char (Char.ofNat (first.toNat % 16 * 4096 + continuationBits second * 64 +
        continuationBits third)) 3 rest := by
  simp only [utf8Head, UInt8.lt_iff_toNat_lt, UInt8.le_iff_toNat_le, UInt8.reduceToNat,
    Bool.and_eq_true, decide_eq_true_eq]
  rw [if_neg (by omega), if_neg (by omega), if_pos lead, if_pos admitted, if_pos tail]

theorem utf8Head_four
    (lead : 0xF0 ≤ first.toNat ∧ first.toNat ≤ 0xF4)
    (admitted : admitsSecondOfFour first second = true) (tail : isContinuation third = true)
    (last : isContinuation fourth = true) (rest : List UInt8) :
    utf8Head first (second :: third :: fourth :: rest) =
      .char (Char.ofNat (first.toNat % 8 * 262144 + continuationBits second * 4096 +
        continuationBits third * 64 + continuationBits fourth)) 4 rest := by
  simp only [utf8Head, UInt8.lt_iff_toNat_lt, UInt8.le_iff_toNat_le, UInt8.reduceToNat,
    Bool.and_eq_true, decide_eq_true_eq]
  rw [if_neg (by omega), if_neg (by omega), if_neg (by omega), if_pos lead, if_pos admitted,
    if_pos tail, if_pos last]

end

theorem toNat_ofNat_small {value : Nat} (small : value < 256) :
    (UInt8.ofNat value).toNat = value := by
  rw [UInt8.toNat_ofNat', Nat.mod_eq_of_lt small]

theorem isContinuation_ofNat (bits : Nat) :
    isContinuation (UInt8.ofNat (bits % 64 + 0x80)) = true := by
  rw [isContinuation_iff, toNat_ofNat_small (by omega)]
  omega

theorem continuationBits_ofNat (bits : Nat) :
    continuationBits (UInt8.ofNat (bits % 64 + 0x80)) = bits % 64 := by
  rw [continuationBits, toNat_ofNat_small (by omega)]
  omega

/-- What stands at the head of an encoded character and whatever follows it. -/
theorem utf8Head_encode (c : Char) (rest : List UInt8) :
    ∃ first more, String.utf8EncodeChar c ++ rest = first :: more ∧
      utf8Head first more = .char c (String.utf8EncodeChar c).length rest := by
  have valid : c.val.toNat.isValidChar := c.valid
  have same : Char.ofNat c.val.toNat = c := Char.ofNat_toNat c
  unfold Nat.isValidChar at valid
  unfold String.utf8EncodeChar
  generalize c.val.toNat = code at valid same
  subst same
  dsimp only
  split
  case isTrue ascii =>
    have lead : (UInt8.ofNat code).toNat = code := toNat_ofNat_small (by omega)
    refine ⟨_, _, rfl, (utf8Head_one (by omega) rest).trans ?_⟩
    rw [lead]
    rfl
  case isFalse =>
    split
    case isTrue =>
      have lead : (UInt8.ofNat (code / 64 % 32 + 0xC0)).toNat = code / 64 % 32 + 0xC0 :=
        toNat_ofNat_small (by omega)
      refine ⟨_, _, rfl, (utf8Head_two (by omega) (isContinuation_ofNat _) rest).trans ?_⟩
      rw [lead, continuationBits_ofNat]
      congr 2
      omega
    case isFalse =>
      split
      case isTrue =>
        have lead : (UInt8.ofNat (code / 4096 % 16 + 0xE0)).toNat = code / 4096 % 16 + 0xE0 :=
          toNat_ofNat_small (by omega)
        have admitted : admitsSecondOfThree (UInt8.ofNat (code / 4096 % 16 + 0xE0))
            (UInt8.ofNat (code / 64 % 64 + 0x80)) = true := by
          rw [admitsSecondOfThree_iff, lead, toNat_ofNat_small (by omega)]
          omega
        refine ⟨_, _, rfl,
          (utf8Head_three (by omega) admitted (isContinuation_ofNat _) rest).trans ?_⟩
        rw [lead, continuationBits_ofNat, continuationBits_ofNat]
        congr 2
        omega
      case isFalse =>
        have lead : (UInt8.ofNat (code / 262144 % 8 + 0xF0)).toNat = code / 262144 % 8 + 0xF0 :=
          toNat_ofNat_small (by omega)
        have admitted : admitsSecondOfFour (UInt8.ofNat (code / 262144 % 8 + 0xF0))
            (UInt8.ofNat (code / 4096 % 64 + 0x80)) = true := by
          rw [admitsSecondOfFour_iff, lead, toNat_ofNat_small (by omega)]
          omega
        refine ⟨_, _, rfl, (utf8Head_four (by omega) admitted (isContinuation_ofNat _)
          (isContinuation_ofNat _) rest).trans ?_⟩
        rw [lead, continuationBits_ofNat, continuationBits_ofNat, continuationBits_ofNat]
        congr 2
        omega

/-! ## Texts -/

theorem decodeUtf8From_encode
    (start : Nat) (before text : List Char) :
    decodeUtf8From start before (text.flatMap String.utf8EncodeChar) =
      .ok (before.reverse ++ text) := by
  induction text generalizing start before with
  | nil => rw [List.flatMap_nil, decodeUtf8From, List.append_nil]
  | cons c rest ih =>
      obtain ⟨first, more, same, read⟩ :=
        utf8Head_encode c (rest.flatMap String.utf8EncodeChar)
      rw [List.flatMap_cons, same, decodeUtf8From]
      split
      case h_1 head =>
        cases read.symm.trans head
        rw [ih, List.reverse_cons, List.append_assoc]
        rfl
      case h_2 head => cases read.symm.trans head
      case h_3 head => cases read.symm.trans head

theorem eq_encode_of_decodeUtf8From
    {start : Nat} {before text : List Char} {bytes : List UInt8}
    (decoded : decodeUtf8From start before bytes = .ok text) :
    ∃ read, text = before.reverse ++ read ∧ bytes = read.flatMap String.utf8EncodeChar := by
  fun_induction decodeUtf8From start before bytes with
  | case1 start before =>
      cases decoded
      exact ⟨[], by simp, rfl⟩
  | case2 start before first more c size rest head ih =>
      obtain ⟨read, same, rest⟩ := ih decoded
      refine ⟨c :: read, by simp [same], ?_⟩
      rw [eq_encode_of_utf8Head head, rest, List.flatMap_cons]
  | case3 => cases decoded
  | case4 => cases decoded

/-- Bytes are decoded to a text exactly if they are its UTF-8 bytes. -/
theorem decodeUtf8_eq_ok_iff {bytes : List UInt8} {text : String} :
    decodeUtf8 bytes = .ok text ↔ bytes = utf8Bytes text := by
  unfold decodeUtf8 utf8Bytes
  constructor
  · intro decoded
    split at decoded
    case h_1 read found =>
      cases decoded
      obtain ⟨chars, rfl, same⟩ := eq_encode_of_decodeUtf8From found
      simpa using same
    case h_2 => cases decoded
  · rintro rfl
    rw [decodeUtf8From_encode]
    simp

end GuiExplorer.Text
