import GuiExplorer.Image.Bitmap.Header
import GuiExplorer.Image.Bitmap.Runs

/-!
# Bitmaps

A file header points to the pixels; header and palette come before them.  Rows are
stored from the lower one up unless the header says otherwise, and each takes a multiple
of four bytes.
-/

namespace GuiExplorer.Image.Bitmap

/-- The bytes that a file starts with. -/
def signature : List UInt8 :=
  ascii "BM"

/-- Bytes of the file header. -/
def fileHeaderBytes : Nat :=
  14

namespace Header

/-- Bytes of a palette that the file must hold. -/
def paletteBytes (header : Header) : Except ImageError Nat :=
  let choices := Nat.pow 2 header.bits
  let colours := if header.colours = 0 then choices else header.colours
  if choices < colours then .error .damaged else .ok (colours * header.entryBytes)

/-- Read the palette; there is none if pixels are stored otherwise. -/
def palette (header : Header) (file : ByteArray) : Except ImageError (List UInt8) := do
  if header.storage = .palette ∨ header.storage = .runs then
    let size ← header.paletteBytes
    if file.size < header.stop + size then .error .endsEarly
    else return bytesAt file header.stop size
  else return []

/-- Bytes of a row. -/
def rowBytes (header : Header) : Nat :=
  (header.bits * header.width + 31) / 32 * 4

/-- The number in the stored row for a row of the image. -/
def storedRow (header : Header) (row : Nat) : Nat :=
  if header.isTopDown then row else header.height - 1 - row

/-- The pixel that is stored in a column of the row at a position. -/
def pixelAt (header : Header) (file : ByteArray) (palette : Array Pixel) (start column : Nat) :
    Pixel :=
  let bytes := header.bits / 8
  let stored : List UInt8 := bytesAt file (start + bytes * column) bytes
  match header.storage, stored with
  | .packed, _ => header.masks.read (littleEndian stored)
  | .bytes, [blue, green, red] => .ofColour red green blue
  | _, _ =>
      let bit := header.bits * column
      let byte := (file[start + bit / 8]?.getD 0).toNat
      palette.getD
        (byte / Nat.pow 2 (8 - header.bits - bit % 8) % Nat.pow 2 header.bits) black

/-- Bytes of a pixel in memory. -/
def pixelBytes (header : Header) : Nat :=
  if header.storage = .packed ∧ header.masks.alpha.length ≠ 0 then 4 else 3

/-- The image whose pixels start at a position. -/
def image (header : Header) (file : ByteArray) (palette : List UInt8) (start : Nat) :
    Except ImageError Raster := do
  let colours := (Array.range (palette.length / header.entryBytes)).map fun entry =>
    match (palette.drop (entry * header.entryBytes)).take 3 with
    | [blue, green, red] => Pixel.ofColour red green blue
    | _ => black
  if header.storage = .runs then
    let pixels ← readRuns header.bits header.width header.height colours ⟨0, 0, #[]⟩
      (file.data.toList.drop start)
    return .ofPixels header.width header.height
      ((Array.range pixels.size).map fun index =>
        pixels.getD (header.storedRow (index / header.width) * header.width +
          index % header.width) black)
  else if 0 < header.height ∧ file.size < start + header.rowBytes * header.height then
    .error .endsEarly
  else
    return ⟨header.width, header.height, fun column row =>
      header.pixelAt file colours (start + header.rowBytes * header.storedRow row) column⟩

end Header

/-- Decode a file with this signature. -/
def decode (file : ByteArray) : Except ImageError Raster := do
  let start ← littleAt file 10 4
  let header ← readHeader file false fileHeaderBytes
  let palette ← header.palette file
  grantMemory header.width header.height header.pixelBytes
  header.image file palette start

end GuiExplorer.Image.Bitmap
