import GuiExplorer.Image.Inflate
import GuiExplorer.Image.Png.Preamble

/-!
# Rows of a PNG image

The data of an image are rows of bytes.  Each row is sent as the differences to
predictions from its neighbours; an interlaced image is sent in seven passes, each
with the rows of a smaller image.
-/

namespace GuiExplorer.Image.Png

/-- The prediction of a byte from its left, upper and upper left neighbours: the
one closest to left plus upper minus upper left. -/
def paeth (left up upLeft : UInt8) : UInt8 :=
  let estimate := (left.toNat : Int) + up.toNat - upLeft.toNat
  let toLeft := (estimate - left.toNat).natAbs
  let toUp := (estimate - up.toNat).natAbs
  let toUpLeft := (estimate - upLeft.toNat).natAbs
  if toLeft ≤ toUp ∧ toLeft ≤ toUpLeft then left
  else if toUp ≤ toUpLeft then up
  else upLeft

/-- The prediction that a filter makes. -/
def predict? (filter : UInt8) (left up upLeft : UInt8) : Option UInt8 :=
  if filter = 0 then some 0
  else if filter = 1 then some left
  else if filter = 2 then some up
  else if filter = 3 then some (UInt8.ofNat ((left.toNat + up.toNat) / 2))
  else if filter = 4 then some (paeth left up upLeft)
  else none

/-- Add the predictions to the bytes of a row, given the row above. -/
def unfilter (filter : UInt8) (step : Nat) (above row : List UInt8) : Option (List UInt8) :=
  let above := above.toArray
  let restore (before : Option (Array UInt8)) (item : UInt8 × Nat) : Option (Array UInt8) := do
    let done ← before
    let (byte, i) := item
    let left := if i < step then 0 else done.getD (i - step) 0
    let upLeft := if i < step then 0 else above.getD (i - step) 0
    let prediction ← predict? filter left (above.getD i 0) upLeft
    some (done.push (byte + prediction))
  (row.zipIdx.foldl restore (some #[])).map Array.toList

/-- Restore `count` rows of `size` bytes each from the start of the data, and
return the rest of the data. -/
def readRows (header : Header) (size : Nat) :
    (count : Nat) → (above data : List UInt8) →
      Except StreamEnd (List (List UInt8) × List UInt8)
  | 0, _, data => .ok ([], data)
  | _ + 1, _, [] => .error .cut
  | count + 1, above, filter :: data =>
      let sent := data.take size
      if sent.length < size then .error .cut
      else
        match unfilter filter header.step above sent with
        | none => .error .damaged
        | some row =>
            match readRows header size count row (data.drop size) with
            | .ok (rows, rest) => .ok (row :: rows, rest)
            | .error ending => .error ending

/-- One of the partial images in which the rows are sent: its pixels are those
at `left + i * across` and `top + j * down`. -/
structure Pass where
  left : Nat
  top : Nat
  across : Nat
  down : Nat
deriving Repr

/-- All pixels at once, or seven passes with more and more pixels. -/
def passes (interlaced : Bool) : List Pass :=
  if interlaced then
    [⟨0, 0, 8, 8⟩, ⟨4, 0, 8, 8⟩, ⟨0, 4, 4, 8⟩, ⟨2, 0, 4, 4⟩, ⟨0, 2, 2, 4⟩, ⟨1, 0, 2, 2⟩,
      ⟨0, 1, 1, 2⟩]
  else [⟨0, 0, 1, 1⟩]

/-- How many positions `start`, `start + step`, … are below `limit`. -/
def positions (start step limit : Nat) : Nat :=
  (limit - start + step - 1) / step

/-- The rows of a pass. -/
abbrev PassRows := Pass × List (List UInt8)

/-- Restore the rows of all passes; a pass without pixels has no rows. -/
def readPasses (header : Header) :
    List Pass → List UInt8 → Except StreamEnd (List PassRows)
  | [], _ => .ok []
  | pass :: rest, data =>
      let width := positions pass.left pass.across header.width
      let height := positions pass.top pass.down header.height
      if width = 0 ∨ height = 0 then readPasses header rest data
      else
        match readRows header (header.rowBytes width) height [] data with
        | .error ending => .error ending
        | .ok (rows, data) =>
            match readPasses header rest data with
            | .ok passes => .ok ((pass, rows) :: passes)
            | .error ending => .error ending

/-- Restore the first row of the first pass that has pixels. -/
def firstRow (header : Header) (passes : List Pass) (data : List UInt8) :
    Except StreamEnd (List (List UInt8) × List UInt8) :=
  let width (pass : Pass) : Nat := positions pass.left pass.across header.width
  match passes.find? fun pass => width pass ≠ 0 ∧ positions pass.top pass.down header.height ≠ 0 with
  | some pass => readRows header (header.rowBytes (width pass)) 1 [] data
  | none => .ok ([], data)

end GuiExplorer.Image.Png
