import GuiExplorer.Image.Bytes
import GuiExplorer.Image.Gif.Words
import GuiExplorer.Image.Raster

/-!
# GIF images

A file describes a screen and then, block by block, the frames shown on it.  The image is
the screen with the first frame; what the frame does not cover is transparent.  A file
that ends too early is as bad as a damaged one.
-/

namespace GuiExplorer.Image.Gif

/-- The bytes that a file may start with. -/
def signatures : List (List UInt8) :=
  [ascii "GIF87a", ascii "GIF89a"]

/-- The bytes of colours, three for each. -/
abbrev ColourTable :=
  List UInt8

/-- Read the table of colours at a position, if the flags say that there is one; the
result includes the position after it. -/
def readTable? (file : ByteArray) (flags position : Nat) : Option (Option ColourTable × Nat) :=
  if flags / 128 = 0 then some (none, position)
  else
    let size := 3 * Nat.pow 2 (flags % 8 + 1)
    if file.size < position + size then none
    else some (some (bytesAt file position size), position + size)

/-- Join the parts of data from a position on, after the data before them.  Each part
follows its size, and a size of zero ends the data; the result includes the position
after it, unless the file ends before. -/
def readParts (file : ByteArray) (position : Nat) (before : ByteArray) :
    ByteArray × Option Nat :=
  if _more : position < file.size then
    let size := file[position].toNat
    let stop := position + 1 + size
    if size = 0 then (before, some stop)
    else readParts file stop (before ++ file.extract (position + 1) stop)
  else (before, none)
termination_by file.size - position
decreasing_by
  omega

/-- The first frame. -/
structure Frame where
  left : Nat
  top : Nat
  width : Nat
  height : Nat
  isInterlaced : Bool
  colours : ColourTable
  /-- The index that stands for no colour. -/
  transparent : Option UInt8
  /-- The position of the compressed indices. -/
  start : Nat
deriving Repr

namespace Frame

/-- Read the frame whose description is at a position.  It brings its own colours, or has
those of the screen. -/
def read? (file : ByteArray) (screen : Option ColourTable) (transparent : Option UInt8)
    (position : Nat) : Option Frame := do
  let left ← littleAt? file position 2
  let top ← littleAt? file (position + 2) 2
  let width ← littleAt? file (position + 4) 2
  let height ← littleAt? file (position + 6) 2
  let flags ← littleAt? file (position + 8) 1
  let (own, start) ← readTable? file flags (position + 9)
  let colours ← own.orElse fun _ => screen
  return ⟨left, top, width, height, flags / 64 % 2 = 1, colours, transparent, start⟩

/-- The indices of the frame in the order in which they are sent, if they are all
there. -/
def indices? (frame : Frame) (file : ByteArray) : Option (Array UInt8) := do
  let bits ← littleAt? file frame.start 1
  if bits = 0 ∨ 11 < bits then none
  else
    let (data, _) := readParts file (frame.start + 1) .empty
    readIndices? data bits (frame.width * frame.height)

/-- The place at which a row is sent.  Interlaced rows are sent in four passes: every
eighth one, those half way between, and twice more the ones half way between. -/
def sentRow (frame : Frame) (row : Nat) : Nat :=
  let rows (first step : Nat) : Nat := (frame.height + step - 1 - first) / step
  if !frame.isInterlaced then row
  else if row % 8 = 0 then row / 8
  else if row % 8 = 4 then rows 0 8 + row / 8
  else if row % 4 = 2 then rows 0 8 + rows 4 8 + row / 4
  else rows 0 8 + rows 4 8 + rows 2 4 + row / 2

/-- The pixel for an index; an index without colour is transparent. -/
def colour (frame : Frame) (index : UInt8) : Pixel :=
  match (frame.colours.drop (3 * index.toNat)).take 3 with
  | [red, green, blue] =>
      ⟨red, green, blue, if frame.transparent = some index then 0 else 255⟩
  | _ => ⟨0, 0, 0, 0⟩

/-- The pixel that the frame shows at a position of the screen. -/
def pixelAt (frame : Frame) (indices : Array UInt8) (column row : Nat) : Pixel :=
  if frame.left ≤ column ∧ column < frame.left + frame.width ∧
      frame.top ≤ row ∧ row < frame.top + frame.height then
    let place := frame.sentRow (row - frame.top) * frame.width + (column - frame.left)
    frame.colour (indices.getD place 0)
  else ⟨0, 0, 0, 0⟩

end Frame

/-- Find the first frame among the blocks from a position on.  Of the other blocks, the
one that controls the frame tells which index is transparent. -/
def readFrame? (file : ByteArray) (screen : Option ColourTable) (transparent : Option UInt8)
    (position : Nat) : Option Frame :=
  match bytesAt file position 3 with
  | 0x2C :: _ => Frame.read? file screen transparent (position + 1)
  | [0x21, label, size] =>
      if label = 0xF9 ∧ size ≠ 4 then none
      else
        match readParts file (position + 2) .empty with
        | (_, none) => none
        | (data, some stop) =>
            let transparent :=
              if label ≠ 0xF9 then transparent
              else if (data[0]?.getD 0) % 2 = 1 then data[3]?
              else none
            if _later : position < stop ∧ stop ≤ file.size then
              readFrame? file screen transparent stop
            else none
  | _ => none
termination_by file.size - position
decreasing_by
  omega

/-- Width and height of the screen, and the first frame with its indices. -/
def read? (file : ByteArray) : Option (Nat × Nat × Frame × Array UInt8) := do
  let width ← littleAt? file 6 2
  let height ← littleAt? file 8 2
  let flags ← littleAt? file 10 1
  let _ ← littleAt? file 11 2
  let (screen, start) ← readTable? file flags 13
  let frame ← readFrame? file screen none start
  return (width, height, frame, ← frame.indices? file)

/-- Decode a file with one of these signatures. -/
def decode (file : ByteArray) : Except ImageError Raster :=
  match read? file with
  | none => .error .damaged
  | some (width, height, frame, indices) => do
      grantMemory width height 4
      return ⟨width, height, frame.pixelAt indices⟩

end GuiExplorer.Image.Gif
