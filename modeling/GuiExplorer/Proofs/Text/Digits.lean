import GuiExplorer.Text.Digit

/-!
# Decimal numbers that are read back

The digits of a number stand for that number, and the first of them is a zero only
if the number is zero.  A reader of unsigned numbers takes exactly the texts that write
one below its bound.
-/

namespace GuiExplorer.Text

theorem ofDigits_toDigits (value : Nat) : ofDigits (Nat.toDigits 10 value) = value :=
  Nat.ofDigitChars_toDigits (by decide) (by decide)

theorem digitChar_ne_zero : ∀ digit < 10, 0 < digit → Nat.digitChar digit ≠ '0' := by
  decide

theorem head?_toDigits_ne_zero {value : Nat} (positive : 0 < value) :
    (Nat.toDigits 10 value).head? ≠ some '0' := by
  induction value using Nat.strongRecOn with
  | ind value ih =>
      rw [Nat.toDigits_eq_if (by decide)]
      split
      case isTrue small => simpa using digitChar_ne_zero value small positive
      case isFalse large =>
          have higher := ih (value / 10) (by omega) (by omega)
          rw [List.head?_append, Option.or_of_isSome]
          · exact higher
          · simp [Nat.toDigits_ne_nil]

/-! ## Unsigned numbers -/

/-- The text writes the number in digits, at least one, perhaps after a plus sign. -/
def WritesNumber (text : List Char) (number : Nat) : Prop :=
  ∃ digits, (text = digits ∨ text = '+' :: digits) ∧ digits ≠ [] ∧
    (∀ c ∈ digits, c.isDigit = true) ∧ ofDigits digits = number

theorem readUnsigned_plus {bound : Nat} {digits : List Char}
    (allDigits : ∀ c ∈ digits, c.isDigit = true) :
    readUnsigned bound ('+' :: digits) = readUnsigned bound digits := by
  have unsigned : ∀ rest, digits ≠ '+' :: rest := by
    rintro rest rfl
    exact absurd (allDigits '+' (by simp)) (by decide)
  rw [readUnsigned, readUnsigned]
  exact unsigned

theorem readUnsigned_digits {bound : Nat} {digits : List Char} (nonempty : digits ≠ [])
    (allDigits : ∀ c ∈ digits, c.isDigit = true) :
    readUnsigned bound digits =
      if ofDigits digits < bound then some (ofDigits digits) else none := by
  rw [← readUnsigned_plus allDigits, readUnsigned, if_neg]
  simpa [nonempty] using allDigits

theorem readUnsigned_eq_some_iff {bound number : Nat} {text : List Char} :
    readUnsigned bound text = some number ↔ WritesNumber text number ∧ number < bound := by
  constructor
  · intro read
    unfold readUnsigned at read
    extract_lets digits at read
    have written : text = digits ∨ text = '+' :: digits := by
      unfold digits
      split
      · exact .inr rfl
      · exact .inl rfl
    split at read
    case isTrue => cases read
    case isFalse readable =>
      obtain ⟨small, rfl⟩ : ofDigits digits < bound ∧ ofDigits digits = number := by
        simpa using read
      have ⟨nonempty, allDigits⟩ : digits ≠ [] ∧ ∀ c ∈ digits, c.isDigit = true := by
        simpa using readable
      exact ⟨⟨digits, written, nonempty, allDigits, rfl⟩, small⟩
  · rintro ⟨⟨digits, rfl | rfl, nonempty, allDigits, rfl⟩, small⟩
    · rw [readUnsigned_digits nonempty allDigits, if_pos small]
    · rw [readUnsigned_plus allDigits, readUnsigned_digits nonempty allDigits, if_pos small]

/-- Words of a size are read from the texts that write their numbers. -/
theorem map_readUnsigned_eq_some_iff {size : Nat} {ofNat : Nat → α} {toNat : α → Nat}
    (small : ∀ word, toNat word < size) (ofNat_toNat : ∀ word, ofNat (toNat word) = word)
    (toNat_ofNat : ∀ number < size, toNat (ofNat number) = number)
    {text : List Char} {word : α} :
    (readUnsigned size text).map ofNat = some word ↔ WritesNumber text (toNat word) := by
  rw [Option.map_eq_some_iff]
  constructor
  · rintro ⟨number, read, rfl⟩
    obtain ⟨writes, bounded⟩ := readUnsigned_eq_some_iff.mp read
    rwa [toNat_ofNat number bounded]
  · intro writes
    exact ⟨toNat word, readUnsigned_eq_some_iff.mpr ⟨writes, small word⟩, ofNat_toNat word⟩

/-! ## Signed numbers -/

theorem toDigits_injective : Function.Injective (Nat.toDigits 10) :=
  Function.LeftInverse.injective ofDigits_toDigits

theorem isDigit_of_mem_toDigits {value : Nat} {c : Char} (inside : c ∈ Nat.toDigits 10 value) :
    c.isDigit = true :=
  Nat.isDigit_of_mem_toDigits (by decide) (by decide) inside

theorem toList_toString_int (value : Int) :
    (toString value).toList =
      match value with
      | .ofNat value => Nat.toDigits 10 value
      | .negSucc value => '-' :: Nat.toDigits 10 (value + 1) := by
  rw [Int.toString_eq_repr]
  cases value <;> simp [Int.repr]

/-- A signed number is written in digits, perhaps after a minus sign. -/
theorem isDigit_of_mem_toString_int {value : Int} {c : Char} (inside : c ∈ (toString value).toList)
    (other : c ≠ '-') : c.isDigit = true := by
  rw [toList_toString_int] at inside
  cases value with
  | ofNat value => exact isDigit_of_mem_toDigits inside
  | negSucc value =>
      rcases List.mem_cons.mp inside with minus | inside
      · exact absurd minus other
      · exact isDigit_of_mem_toDigits inside

theorem toString_int_injective : Function.Injective (toString : Int → String) := by
  intro left right same
  have signs (value more : Nat) : Nat.toDigits 10 value ≠ '-' :: Nat.toDigits 10 more := by
    intro equal
    have inside : '-' ∈ Nat.toDigits 10 value := equal ▸ List.mem_cons_self
    have minus : '-'.isDigit = true := isDigit_of_mem_toDigits inside
    cases minus
  have chars := congrArg String.toList same
  rw [toList_toString_int, toList_toString_int] at chars
  cases left with
  | ofNat value =>
      cases right with
      | ofNat other => exact congrArg Int.ofNat (toDigits_injective chars)
      | negSucc other => exact absurd chars (signs value _)
  | negSucc value =>
      cases right with
      | ofNat other => exact absurd chars.symm (signs other _)
      | negSucc other =>
          have digits := toDigits_injective (List.cons.inj chars).2
          exact congrArg Int.negSucc (Nat.succ.inj digits)

end GuiExplorer.Text
