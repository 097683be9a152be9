/-!
# Ranges of code points

Sets of characters, given by the first and the last code point of each run.
-/

namespace GuiExplorer.Text

/-- Runs of code points; both ends of a run belong to it. -/
abbrev CodeRanges := List (Nat × Nat)

/-- Whether a character is in one of the runs. -/
def CodeRanges.has (ranges : CodeRanges) (c : Char) : Bool :=
  ranges.any fun (first, last) => first ≤ c.toNat && c.toNat ≤ last

end GuiExplorer.Text
