import GuiExplorer.Image.Error
import GuiExplorer.Image.Png.Chunk

/-!
# Chunks before the image data

The header chunk comes first and gives size and sample format.  Palette and
transparency may follow, and so may the description of an animation, whose first frame
then is the image.  A chunk that decoding can do without is dropped if it is damaged,
misplaced or repeated.
-/

namespace GuiExplorer.Image.Png

/-- What the samples of a pixel mean. -/
inductive ColourKind where
  | grey
  | colour
  | palette
  | greyAlpha
  | colourAlpha
deriving DecidableEq, Repr

namespace ColourKind

def ofNumber? : Nat → Option ColourKind
  | 0 => some .grey
  | 2 => some .colour
  | 3 => some .palette
  | 4 => some .greyAlpha
  | 6 => some .colourAlpha
  | _ => none

/-- Samples of a pixel. -/
def samples : ColourKind → Nat
  | .grey => 1
  | .colour => 3
  | .palette => 1
  | .greyAlpha => 2
  | .colourAlpha => 4

/-- The numbers of bits that a sample may have. -/
def depths : ColourKind → List Nat
  | .grey => [1, 2, 4, 8, 16]
  | .palette => [1, 2, 4, 8]
  | _ => [8, 16]

end ColourKind

/-- The contents of the header chunk. -/
structure Header where
  width : Nat
  height : Nat
  depth : Nat
  kind : ColourKind
  interlaced : Bool
deriving Repr

namespace Header

/-- Read the header chunk. -/
def ofBytes? : List UInt8 → Option Header
  | [w₀, w₁, w₂, w₃, h₀, h₁, h₂, h₃, depth, kind, compression, filter, interlace] => do
      let kind ← ColourKind.ofNumber? kind.toNat
      let width := bigEndian [w₀, w₁, w₂, w₃]
      let height := bigEndian [h₀, h₁, h₂, h₃]
      if width ≠ 0 ∧ height ≠ 0 ∧ depth.toNat ∈ kind.depths ∧ compression = 0 ∧ filter = 0 ∧
          interlace ≤ 1 then
        some ⟨width, height, depth.toNat, kind, interlace = 1⟩
      else none
  | _ => none

/-- Bits of a pixel. -/
def pixelBits (header : Header) : Nat :=
  header.depth * header.kind.samples

/-- Bytes of a row with `width` pixels. -/
def rowBytes (header : Header) (width : Nat) : Nat :=
  (width * header.pixelBits + 7) / 8

/-- The distance to the byte that filters compare with. -/
def step (header : Header) : Nat :=
  max 1 (header.pixelBits / 8)

end Header

/-- What the chunks before the image data tell. -/
structure Preamble where
  header : Header
  palette : Option (List UInt8) := none
  transparency : Option (List UInt8) := none
  /-- Whether the colour space was given. -/
  hasColourSpace : Bool := false
  /-- The number of the last part of the animation. -/
  frame : Option Nat := none

namespace Preamble

/-- The transparent samples, or the opacities of the palette. -/
def transparencyOf (header : Header) (contents : List UInt8) : Option (List UInt8) :=
  match header.kind, contents with
  | .grey, high :: low :: more => some (if header.depth = 16 then high :: low :: more else [low])
  | .colour, _ :: red :: _ :: green :: _ :: blue :: _ =>
      some (if header.depth = 16 then contents else [red, green, blue])
  | .palette, _ => some contents
  | _, _ => none

/-- Channels of a pixel in memory: the ones of its colour, and the opacity if there can
be any. -/
def channels (preamble : Preamble) : Nat :=
  let opacity := if preamble.transparency.isSome then 1 else 0
  match preamble.header.kind with
  | .grey => 1 + opacity
  | .colour | .palette => 3 + opacity
  | .greyAlpha => 2
  | .colourAlpha => 4

/-- Bytes of a pixel in memory. -/
def pixelBytes (preamble : Preamble) : Nat :=
  if preamble.header.depth = 16 then 2 * preamble.channels else preamble.channels

/-- Take in the transparency; only the first one counts. -/
def addTransparency (preamble : Preamble) (contents : List UInt8) : Preamble :=
  if preamble.transparency.isSome then preamble
  else if preamble.header.kind = .palette && preamble.palette.isNone then preamble
  else { preamble with transparency := transparencyOf preamble.header contents }

/-- Take in the colour space.  Only the first one counts, and only before the
palette. -/
def addColourSpace (preamble : Preamble) (contents : List UInt8) : Except ImageError Preamble :=
  if preamble.hasColourSpace || preamble.palette.isSome then .ok preamble
  else
    match contents with
    | [_, _, matrix, range] =>
        if matrix = 0 ∧ range ≤ 1 then .ok { preamble with hasColourSpace := true }
        else .error .endsEarly
    | _ => .ok preamble

/-- Take in the description of a frame: it is the next part of the animation and
covers the whole image. -/
def addFrame (preamble : Preamble) (contents : List UInt8) : Except ImageError Preamble :=
  let number (start count : Nat) : Nat := bigEndian ((contents.drop start).take count)
  let next := (preamble.frame.map (· + 1)).getD 0
  if number 0 4 = next ∧ number 4 4 = preamble.header.width ∧
      number 8 4 = preamble.header.height ∧ number 12 8 = 0 ∧ number 24 1 ≤ 2 ∧ number 25 1 ≤ 1 then
    .ok { preamble with frame := some next }
  else .error .damaged

/-- Take in the contents of a chunk. -/
def add (preamble : Preamble) (chunk : Chunk) (contents : List UInt8) :
    Except ImageError Preamble :=
  if chunk.isNamed "PLTE" then
    if preamble.palette.isSome then .error .damaged
    else .ok { preamble with palette := some contents }
  else if chunk.isNamed "tRNS" then .ok (preamble.addTransparency contents)
  else if chunk.isNamed "cICP" then preamble.addColourSpace contents
  else if chunk.isNamed "fcTL" then preamble.addFrame contents
  else if chunk.isNamed "bKGD" && preamble.header.kind = .palette && preamble.palette.isNone then
    .error .endsEarly
  else if chunk.isAncillary then .ok preamble
  else .error .damaged

end Preamble

/-- Whether a chunk is refused at the sight of its name and its size. -/
def Chunk.isRefused (chunk : Chunk) : Bool :=
  if chunk.isAncillary then chunk.isNamed "fcTL" && !chunk.isWithinLimits
  else chunk.limit?.isNone || !chunk.isWithinLimits

/-- Read the header chunk. -/
def readHeader (file : ByteArray) : Except ImageError Header :=
  match chunkAt? file signature.length with
  | none => .error .endsEarly
  | some chunk =>
      if !chunk.isNamed "IHDR" || !chunk.isWithinLimits then .error .damaged
      else if !chunk.isWhole file then .error .endsEarly
      else if !chunk.isIntact file then .error .damaged
      else
        match Header.ofBytes? (chunk.contents file) with
        | some header => .ok header
        | none => .error .damaged

/-- Read the chunks from a position up to the image data; the result includes the
first data chunk. -/
def readPreamble (file : ByteArray) (preamble : Preamble) (position : Nat) :
    Except ImageError (Preamble × Chunk) :=
  match _found : chunkAt? file position with
  | none => .error .endsEarly
  | some chunk =>
      if chunk.isNamed "IDAT" then .ok (preamble, chunk)
      else if chunk.isNamed "fdAT" then
        if preamble.frame.isSome && 4 ≤ chunk.size then .ok (preamble, chunk)
        else .error .damaged
      else if chunk.isRefused then .error .damaged
      else if !chunk.isWhole file then .error .endsEarly
      else if !chunk.isAncillary && !chunk.isIntact file then .error .damaged
      else
        let next := position + 12 + chunk.size
        if !chunk.isIntact file || !chunk.isWithinLimits then readPreamble file preamble next
        else
          match preamble.add chunk (chunk.contents file) with
          | .ok preamble => readPreamble file preamble next
          | .error error => .error error
termination_by file.size - position
decreasing_by
  all_goals
    unfold chunkAt? at _found
    split at _found
    · contradiction
    · omega

/-- Whether decoding stops at the palette, and how: an image of palette entries needs
one, of whole colours. -/
def Preamble.paletteError? (preamble : Preamble) : Option ImageError :=
  if preamble.header.kind = .palette then
    match preamble.palette with
    | none => some .damaged
    | some palette => if palette.length % 3 = 0 then none else some .brokenPalette
  else none

end GuiExplorer.Image.Png
