/-!
# Screen rectangles

Positions and sizes are signed 32-bit numbers.  The device may report any of
them, negative sizes and rectangles beyond every screen included.
-/

namespace GuiExplorer

/-- Screen rectangle of a widget. -/
structure Bounds where
  x : Int32
  y : Int32
  width : Int32
  height : Int32
deriving DecidableEq, Repr, Inhabited

namespace Bounds

/-- The sum, kept within the range of 32 bits. -/
def saturatingAdd (left right : Int32) : Int32 :=
  Int32.ofInt (max (-2147483648) (min 2147483647 (left.toInt + right.toInt)))

/-- Centre point, used as the gesture target.  Half a size is rounded toward
zero. -/
def center (bounds : Bounds) : Int32 × Int32 :=
  (saturatingAdd bounds.x (bounds.width / 2), saturatingAdd bounds.y (bounds.height / 2))

/-- One past the last column, without overflow. -/
def right (bounds : Bounds) : Int :=
  bounds.x.toInt + bounds.width.toInt

/-- One past the last row, without overflow. -/
def bottom (bounds : Bounds) : Int :=
  bounds.y.toInt + bounds.height.toInt

end Bounds

end GuiExplorer
