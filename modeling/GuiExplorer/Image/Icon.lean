import GuiExplorer.Image.Bitmap
import GuiExplorer.Image.Png

/-!
# Icons

An icon file holds images of several sizes, of which the best is taken.  Each is a PNG
file, or a bitmap without file header; after the rows of a bitmap there may be a bit for
each pixel that tells whether it is left out.
-/

namespace GuiExplorer.Image.Icon

/-- The bytes that a file starts with. -/
def signature : List UInt8 :=
  [0, 0, 1, 0]

/-- Where an image is and what is said of it. -/
structure Entry where
  width : Nat
  height : Nat
  /-- Bits of a pixel. -/
  bits : Nat
  size : Nat
  start : Nat
deriving Repr

namespace Entry

/-- Read the entry at a position.  A side of zero stands for 256. -/
def read (file : ByteArray) (position : Nat) : Except ImageError Entry := do
  let side (written : Nat) : Nat := if written = 0 then 256 else written
  let width ← littleAt file position 1
  let height ← littleAt file (position + 1) 1
  let bits ← littleAt file (position + 6) 2
  let size ← littleAt file (position + 8) 4
  let start ← littleAt file (position + 12) 4
  return ⟨side width, side height, bits, size, start⟩

/-- Whether an image is better than another: it has more bits in a pixel, or as many and
more pixels. -/
def isBetter (entry other : Entry) : Bool :=
  other.bits < entry.bits ||
    (entry.bits = other.bits && other.width * other.height < entry.width * entry.height)

/-- Whether the image has the size that is said of it. -/
def isSize (entry : Entry) (width height : Nat) : Bool :=
  entry.width = min width 256 && entry.height = min height 256

end Entry

/-- Read a number of entries. -/
def readEntries (file : ByteArray) : (count position : Nat) → Except ImageError (List Entry)
  | 0, _ => .ok []
  | count + 1, position => do
      let entry ← Entry.read file position
      return entry :: (← readEntries file count (position + 16))

/-- The best of the images; of equally good ones, the last one counts if it is the last
of all, or else the first. -/
def best? (entries : List Entry) : Option Entry :=
  entries.getLast?.map fun last =>
    entries.dropLast.foldl (fun best entry => if entry.isBetter best then entry else best) last

/-- Decode a PNG image of an icon: it has the colours and the opacity in whole bytes. -/
def decodePng (entry : Entry) (file : ByteArray) : Except ImageError Raster := do
  let (preamble, first) ← Png.readStart file
  let width := preamble.header.width
  let height := preamble.header.height
  if entry.width < width ∨ entry.height < height then .error .tooLarge
  else if entry.size < Png.signature.length ∨ !entry.isSize width height then .error .damaged
  else if preamble.channels ≠ 4 ∨ preamble.header.depth = 16 then .error .damaged
  else Png.decodeData file preamble first

/-- Leave out pixels by bits that start at a position.  Rows of bits take multiples of
four bytes; the first is the lowest one. -/
def leaveOut (image : Raster) (file : ByteArray) (start : Nat) : Raster :=
  { image with
    pixel := fun column row =>
      let position :=
        start + (image.width + 31) / 32 * 4 * (image.height - 1 - row) + column / 8
      let bit := (file[position]?.getD 0).toNat / Nat.pow 2 (7 - column % 8) % 2
      let pixel := image.pixel column row
      if bit = 1 then { pixel with alpha := 0 } else pixel }

/-- Decode a bitmap of an icon: its height counts the rows of bits, too, whether they
are there or not. -/
def decodeBitmap (entry : Entry) (file : ByteArray) : Except ImageError Raster := do
  let whole ← Bitmap.readHeader file true entry.start
  let header := { whole with height := whole.height / 2 }
  let palette ← header.palette file
  grantMemory header.width header.height 4
  if !entry.isSize header.width header.height then .error .damaged
  else
    let start := header.stop + palette.length
    let image ← header.image file palette start
    let stop := start + header.rowBytes * header.height
    let bitBytes := (header.width + 31) / 32 * 4 * header.height
    let last := entry.start + entry.size
    if stop + bitBytes ≤ last then
      if file.size < stop + bitBytes then .error .endsEarly else return leaveOut image file stop
    else if last = stop then return image
    else .error .damaged

/-- Decode a file with this signature. -/
def decode (file : ByteArray) : Except ImageError Raster := do
  let count ← littleAt file 4 2
  let entries ← readEntries file count 6
  match best? entries with
  | none => .error .damaged
  | some entry =>
      if file.size < entry.start + Png.signature.length then .error .endsEarly
      else if bytesAt file entry.start 8 = Png.signature then
        decodePng entry (file.extract entry.start file.size)
      else decodeBitmap entry file

end GuiExplorer.Image.Icon
