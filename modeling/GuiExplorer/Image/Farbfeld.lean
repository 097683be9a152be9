import GuiExplorer.Image.Bytes
import GuiExplorer.Image.Error
import GuiExplorer.Image.Raster

/-!
# Farbfeld images

The format of the name `farbfeld`: width and height, then the pixels row by row, each
with four samples of sixteen bits.  All numbers have their high byte first.
-/

namespace GuiExplorer.Image.Farbfeld

/-- The bytes that a file starts with. -/
def signature : List UInt8 :=
  ascii "farbfeld"

/-- Bytes before the pixels. -/
def headerBytes : Nat :=
  16

/-- Bytes of a pixel. -/
def pixelBytes : Nat :=
  8

/-- The pixel whose samples start at a position. -/
def pixelAt (file : ByteArray) (position : Nat) : Pixel :=
  let channel (number : Nat) : UInt8 :=
    Pixel.narrow (bigEndian (bytesAt file (position + 2 * number) 2))
  ⟨channel 0, channel 1, channel 2, channel 3⟩

/-- Decode a file with this signature. -/
def decode (file : ByteArray) : Except ImageError Raster := do
  if file.size < headerBytes then .error .damaged
  else
    let width := bigEndian (bytesAt file 8 4)
    let height := bigEndian (bytesAt file 12 4)
    grantCount width height pixelBytes
    if file.size < headerBytes + width * height * pixelBytes then .error .endsEarly
    else
      return ⟨width, height, fun column row =>
        pixelAt file (headerBytes + (row * width + column) * pixelBytes)⟩

end GuiExplorer.Image.Farbfeld
