/-!
# Raster images

An image is its size together with the colour at each position.
-/

namespace GuiExplorer

/-- A colour with opacity. -/
structure Pixel where
  red : UInt8
  green : UInt8
  blue : UInt8
  alpha : UInt8
deriving DecidableEq, Repr

/-- The four channels of a pixel in order. -/
def Pixel.bytes (pixel : Pixel) : List UInt8 :=
  [pixel.red, pixel.green, pixel.blue, pixel.alpha]

/-- An opaque colour. -/
def Pixel.ofColour (red green blue : UInt8) : Pixel :=
  ⟨red, green, blue, 255⟩

/-- An opaque grey. -/
def Pixel.ofGrey (grey : UInt8) : Pixel :=
  .ofColour grey grey grey

/-- The eight bits of a sample of sixteen bits, rounded. -/
def Pixel.narrow (sample : Nat) : UInt8 :=
  UInt8.ofNat ((sample + 128) / 257)

/-- An image; `pixel column row` matters for `column < width` and
`row < height` only. -/
structure Raster where
  width : Nat
  height : Nat
  pixel : Nat → Nat → Pixel

namespace Raster

/-- The image with these pixels, row by row; missing ones are transparent. -/
def ofPixels (width height : Nat) (pixels : Array Pixel) : Raster :=
  ⟨width, height, fun column row => pixels.getD (row * width + column) ⟨0, 0, 0, 0⟩⟩

/-- The row-major bytes of the rectangle of columns `left` to `right` and rows
`top` to `bottom`, the upper limits excluded. -/
def regionBytes (image : Raster) (left top right bottom : Nat) : List UInt8 :=
  (List.range' top (bottom - top)).flatMap fun row =>
    (List.range' left (right - left)).flatMap fun column => (image.pixel column row).bytes

/-- The row-major bytes of the whole image. -/
def bytes (image : Raster) : List UInt8 :=
  image.regionBytes 0 0 image.width image.height

end Raster

end GuiExplorer
