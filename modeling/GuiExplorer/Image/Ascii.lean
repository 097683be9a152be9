/-!
# Words and numbers in ASCII

The headers of some formats are texts in ASCII, which may stand before any other bytes.
-/

namespace GuiExplorer.Image

/-- The blanks of ASCII. -/
def isBlank (byte : UInt8) : Bool :=
  byte = 32 || (9 ≤ byte && byte ≤ 13)

/-- The digits of ASCII. -/
def isDigit (byte : UInt8) : Bool :=
  48 ≤ byte && byte ≤ 57

/-- Remove the blanks at both ends. -/
def trim (text : List UInt8) : List UInt8 :=
  ((text.dropWhile isBlank).reverse.dropWhile isBlank).reverse

/-- The words between blanks. -/
def words (text : List UInt8) : List (List UInt8) :=
  (text.splitBy fun left right => isBlank left = isBlank right).filter (!·.any isBlank)

/-- The first line, and what follows it; none at the end. -/
def line? (text : List UInt8) : Option (List UInt8 × List UInt8) :=
  if text.isEmpty then none
  else
    let line := text.takeWhile (· ≠ 10)
    some (line, text.drop (line.length + 1))

/-- What follows a line is shorter. -/
theorem length_lt_of_line? {text line rest : List UInt8} (h : line? text = some (line, rest)) :
    rest.length < text.length := by
  unfold line? at h
  split at h
  · contradiction
  · next more =>
      have positive : 0 < text.length :=
        List.length_pos_iff.mpr fun none => by simp [none] at more
      injection h with h
      injection h with _ drop
      subst drop
      rw [List.length_drop]
      omega

/-- A decimal number, with a plus sign or without, that does not exceed a limit. -/
def decimal? (limit : Nat) (text : List UInt8) : Option Nat :=
  let digits := if text.head? = some 43 then text.drop 1 else text
  if digits.isEmpty || !digits.all isDigit then none
  else
    let value := digits.foldl (fun value byte => 10 * value + (byte.toNat - 48)) 0
    if value ≤ limit then some value else none

/-- Remove a sign. -/
def unsigned (text : List UInt8) : List UInt8 :=
  if text.head? = some 43 ∨ text.head? = some 45 then text.drop 1 else text

/-- Whether a text writes a real number: digits with or without a point among them or
around them, and an exponent, or the word for an infinite number or for none. -/
def isReal (text : List UInt8) : Bool :=
  let text := (unsigned text).map fun byte => if 65 ≤ byte && byte ≤ 90 then byte + 32 else byte
  let named := ["inf", "infinity", "nan"].any fun name => text = name.toUTF8.data.toList
  let afterWhole := text.dropWhile isDigit
  let hasPoint := afterWhole.head? = some 46
  let exponent := if hasPoint then (afterWhole.drop 1).dropWhile isDigit else afterWhole
  let digits := text.length - exponent.length - (if hasPoint then 1 else 0)
  let isExponent :=
    match exponent with
    | [] => true
    | letter :: power =>
        letter = 101 && !(unsigned power).isEmpty && (unsigned power).all isDigit
  named || (digits ≠ 0 && isExponent)

end GuiExplorer.Image
