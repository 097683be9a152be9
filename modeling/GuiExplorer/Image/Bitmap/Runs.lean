import GuiExplorer.Image.Error
import GuiExplorer.Image.Raster

/-!
# Runs of palette entries

Compressed rows are a sequence of steps: repeat one byte, copy some bytes, move on, end
the row or end the image.  A byte holds one palette entry of eight bits or two of four.
Pixels that are passed over are black.
-/

namespace GuiExplorer.Image.Bitmap

/-- The colour of pixels that are passed over. -/
def black : Pixel :=
  .ofGrey 0

/-- A step of a compressed image. -/
inductive Step where
  | endOfRow
  | endOfImage
  /-- Pass over pixels of the row, and over whole rows. -/
  | skip (columns rows : Nat)
  /-- Set pixels to these palette entries. -/
  | set (entries : List Nat)
deriving Repr

/-- The palette entries in a byte. -/
def entriesOf (bits : Nat) (byte : UInt8) : List Nat :=
  if bits = 4 then [byte.toNat / 16, byte.toNat % 16] else [byte.toNat]

/-- The step that starts with two bytes, and how many of the bytes after them belong to
it; none if there are too few.  Copied bytes are filled up to an even number. -/
def step? (bits : Nat) (first second : UInt8) (rest : List UInt8) : Option (Step × Nat) :=
  if first ≠ 0 then
    let entries := (List.replicate first.toNat (entriesOf bits second)).flatten
    some (.set (entries.take first.toNat), 0)
  else if second = 0 then some (.endOfRow, 0)
  else if second = 1 then some (.endOfImage, 0)
  else if second = 2 then
    match rest with
    | columns :: rows :: _ => some (.skip columns.toNat rows.toNat, 2)
    | _ => none
  else
    let count := second.toNat
    let size := if bits = 4 then (count + 1) / 2 else count
    let filled := size + size % 2
    if rest.length < filled then none
    else some (.set (((rest.take size).flatMap (entriesOf bits)).take count), filled)

/-- The pixels so far, and the position that they reach. -/
structure Canvas where
  row : Nat
  column : Nat
  pixels : Array Pixel

namespace Canvas

/-- Pass over pixels of a row. -/
def pass (canvas : Canvas) (count : Nat) : Canvas :=
  { canvas with
    column := canvas.column + count
    pixels := canvas.pixels ++ Array.replicate count black }

/-- Go to the start of the next row. -/
def nextRow (width : Nat) (canvas : Canvas) : Canvas :=
  let canvas := canvas.pass (width - canvas.column)
  { canvas with row := canvas.row + 1, column := 0 }

/-- Pass over whole rows and keep the column. -/
def passRows (width : Nat) (canvas : Canvas) : Nat → Canvas
  | 0 => canvas
  | count + 1 =>
      let next := (canvas.nextRow width).pass canvas.column
      passRows width next count

end Canvas

/-- Pass over all pixels that are left. -/
def Canvas.finish (width height : Nat) (canvas : Canvas) : Array Pixel :=
  (canvas.pass (width * height - canvas.pixels.size)).pixels

/-- Take steps until all rows are there.  A step must not leave its row, or the
image. -/
def readRuns (bits width height : Nat) (palette : Array Pixel) (canvas : Canvas) :
    (bytes : List UInt8) → Except ImageError (Array Pixel)
  | first :: second :: rest =>
      if height ≤ canvas.row then .ok canvas.pixels
      else
        match step? bits first second rest with
        | none => .error .endsEarly
        | some (step, used) =>
            let go (canvas : Canvas) :=
              readRuns bits width height palette canvas (rest.drop used)
            match step with
            | .endOfRow => go (canvas.nextRow width)
            | .endOfImage => .ok (canvas.finish width height)
            | .skip columns rows =>
                if height ≤ canvas.row + rows ∨ width < canvas.column + columns then
                  .error .damaged
                else go ((canvas.passRows width rows).pass columns)
            | .set entries =>
                if width < canvas.column + entries.length then .error .damaged
                else
                  go { canvas with
                    column := canvas.column + entries.length
                    pixels :=
                      canvas.pixels ++ (entries.map fun entry => palette.getD entry black) }
  | _ => if height ≤ canvas.row then .ok canvas.pixels else .error .endsEarly
termination_by bytes => bytes.length
decreasing_by
  all_goals
    simp only [List.length_drop, List.length_cons]
    omega

end GuiExplorer.Image.Bitmap
