import GuiExplorer.Text.Digit

/-!
# Numbers with a fixed number of places

A double is shown with some digits after the point.  What is rounded is its
exact value, and a half goes to the even neighbour.
-/

namespace GuiExplorer.Number

/-- A fraction rounded to a whole number; a half goes to the even neighbour. -/
def roundHalfEven (numerator denominator : Nat) : Nat :=
  let whole := numerator / denominator
  let rest := numerator % denominator
  if 2 * rest < denominator then whole
  else if denominator < 2 * rest then whole + 1
  else whole + whole % 2

/-- The exact value of a double that is finite and not negative, as a fraction. -/
def fractionOf (value : Float) : Nat × Nat :=
  let bits := value.toBits.toNat
  let hidden := 0x10000000000000
  let exponent := bits / hidden % 2048
  let significand := if exponent = 0 then bits % hidden else hidden + bits % hidden
  let scale := max exponent 1
  if 1075 ≤ scale then (significand * Nat.pow 2 (scale - 1075), 1)
  else (significand, Nat.pow 2 (1075 - scale))

/-- The text of a fraction with `places` digits after the point. -/
def fixed (places : Nat) (fraction : Nat × Nat) : String :=
  let unit := Nat.pow 10 places
  let scaled := roundHalfEven (fraction.1 * unit) fraction.2
  toString (scaled / unit) ++ "." ++ Text.padded places (scaled % unit)

/-- The text of a double that is finite and not negative. -/
def fixedFloat (places : Nat) (value : Float) : String :=
  fixed places (fractionOf value)

end GuiExplorer.Number
