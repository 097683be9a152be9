/-!
# Shares

A share says how many of a number of things have some property.  Its value is a
fraction; of nothing at all the share is zero.  The value is exact in the
rational numbers and rounded in floating point.
-/

namespace GuiExplorer

/-- `part` out of `whole`. -/
structure Share where
  part : Nat
  whole : Nat
deriving DecidableEq, Repr

namespace Share

/-- How many items of a list have the property. -/
def count (property : α → Bool) (items : List α) : Share :=
  ⟨items.countP property, items.length⟩

/-- The exact fraction. -/
def exact (share : Share) : Rat :=
  if share.whole = 0 then 0 else (share.part : Rat) / (share.whole : Rat)

/-- The fraction as a double. -/
def float (share : Share) : Float :=
  if share.whole = 0 then 0 else share.part.toFloat / share.whole.toFloat

/-- Whether all of at least one thing have the property. -/
def isFull (share : Share) : Bool :=
  share.whole ≠ 0 && share.part = share.whole

/-- The number of things in several groups. -/
def total (shares : List Share) : Nat :=
  shares.foldr (fun share sum => share.whole + sum) 0

/-- The shares of several groups together, each weighted by the size of its
group, as an exact fraction. -/
def exactMean (shares : List Share) : Rat :=
  if total shares = 0 then 0
  else shares.foldr
    (fun share sum => share.exact * ((share.whole : Rat) / (total shares : Rat)) + sum) 0

/-- The weighted shares of several groups, summed from left to right in floating
point. -/
def floatMean (shares : List Share) : Float :=
  if total shares = 0 then 0
  else shares.foldl
    (fun sum share => sum + share.float * (share.whole.toFloat / (total shares).toFloat)) 0

end Share

end GuiExplorer
