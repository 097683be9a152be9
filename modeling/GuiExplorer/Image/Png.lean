import GuiExplorer.Image.Png.Data
import GuiExplorer.Image.Png.Pixels

/-!
# PNG images

Screen captures are PNG files: chunks that describe the image, then chunks with its
compressed rows.  An image whose rows are all there is read, even if the compressed
stream does not end properly.
-/

namespace GuiExplorer.Image.Png

/-- The error for rows that cannot all be read. -/
def rowsError (rows : StreamEnd) (ending : DataEnd) : ImageError :=
  if rows ≠ .damaged ∧ ending = .cut then .endsEarly else .damaged

/-- The image whose rows were taken from data that end in some way.  The palette
is looked at once the first row is there. -/
def ofRows (preamble : Preamble) (rows : List UInt8) (ending : DataEnd) :
    Except ImageError Raster :=
  let header := preamble.header
  let passes := passes header.interlaced
  match firstRow header passes rows with
  | .error missing => .error (rowsError missing ending)
  | .ok _ =>
      match preamble.paletteError? with
      | some error => .error error
      | none =>
          match readPasses header passes rows with
          | .error missing => .error (rowsError missing ending)
          | .ok rows =>
              match ending with
              | .closed => .ok (assemble preamble rows)
              | .cut => .error .endsEarly
              | .damaged => .error .damaged

/-- Read the chunks before the image data, and the first data chunk. -/
def readStart (file : ByteArray) : Except ImageError (Preamble × Chunk) := do
  let header ← readHeader file
  readPreamble file { header := header } (signature.length + 25)

/-- Decode the image data that begin with a chunk. -/
def decodeData (file : ByteArray) (preamble : Preamble) (first : Chunk) :
    Except ImageError Raster :=
  let (data, ending) :=
    readData file first.name ((preamble.frame.map (· + 1)).getD 0) (first.start - 8) .empty
  let stream := inflate data
  if stream.ending = .damaged then .error .damaged
  else ofRows preamble (takenRows stream ending) ending

/-- Decode the chunks of a file. -/
def decode (file : ByteArray) : Except ImageError Raster := do
  let (preamble, first) ← readStart file
  grantMemory preamble.header.width preamble.header.height preamble.pixelBytes
  decodeData file preamble first

end GuiExplorer.Image.Png
