import GuiExplorer.Image.Bytes
import GuiExplorer.Image.Error
import GuiExplorer.Image.Raster

/-!
# QOI images

The format of the name `qoif`.  Pixels are given by the steps from one to the next: a
run of equal pixels, a small change of the colour, a new colour, or one of the colours
used before, of which the last of each hash is remembered.
-/

namespace GuiExplorer.Image.Qoi

/-- The bytes that a file starts with. -/
def signature : List UInt8 :=
  ascii "qoif"

/-- Bytes before the first step. -/
def headerBytes : Nat :=
  14

/-- The most pixels that an image may have. -/
def maxPixels : Nat :=
  400000000

/-- The bytes after the last step. -/
def ending : List UInt8 :=
  [0, 0, 0, 0, 0, 0, 0, 1]

/-- The place at which a colour is remembered, out of 64. -/
def place (pixel : Pixel) : Nat :=
  (3 * pixel.red.toNat + 5 * pixel.green.toNat + 7 * pixel.blue.toNat + 11 * pixel.alpha.toNat) % 64

/-- The pixels so far, the last of them, and the remembered colours. -/
structure State where
  pixels : Array Pixel := #[]
  pixel : Pixel := ⟨0, 0, 0, 255⟩
  remembered : Array Pixel := Array.replicate 64 ⟨0, 0, 0, 0⟩

namespace State

/-- Add a pixel, and remember its colour. -/
def add (state : State) (pixel : Pixel) : State :=
  ⟨state.pixels.push pixel, pixel, state.remembered.setIfInBounds (place pixel) pixel⟩

/-- Add a remembered pixel. -/
def reuse (state : State) (place : Nat) : State :=
  let pixel := state.remembered.getD place ⟨0, 0, 0, 0⟩
  { state with pixels := state.pixels.push pixel, pixel := pixel }

/-- Repeat the last pixel, but no more than is wanted. -/
def repeated (state : State) (wanted count : Nat) : State :=
  let count := min count (wanted - state.pixels.size)
  { state with pixels := state.pixels ++ Array.replicate count state.pixel }

/-- Add a pixel with the opacity of the last one and changed colours. -/
def change (state : State) (red green blue : UInt8) : State :=
  let last := state.pixel
  state.add ⟨last.red + red, last.green + green, last.blue + blue, last.alpha⟩

end State

/-- Take steps until there are as many pixels as wanted; the result includes the bytes
left over.  Steps to a new opacity exist only in images that have opacities. -/
def readPixels (wanted : Nat) (hasAlpha : Bool) (state : State) :
    List UInt8 → Option (Array Pixel × List UInt8)
  | [] => if wanted ≤ state.pixels.size then some (state.pixels, []) else none
  | step :: rest =>
      if wanted ≤ state.pixels.size then some (state.pixels, step :: rest)
      else if step = 255 then
        match hasAlpha, rest with
        | true, red :: green :: blue :: alpha :: rest =>
            readPixels wanted hasAlpha (state.add ⟨red, green, blue, alpha⟩) rest
        | _, _ => none
      else if step = 254 then
        match rest with
        | red :: green :: blue :: rest =>
            readPixels wanted hasAlpha (state.add ⟨red, green, blue, state.pixel.alpha⟩) rest
        | _ => none
      else if step < 64 then readPixels wanted hasAlpha (state.reuse step.toNat) rest
      else if step < 128 then
        readPixels wanted hasAlpha
          (state.change (step / 16 % 4 - 2) (step / 4 % 4 - 2) (step % 4 - 2)) rest
      else if step < 192 then
        match rest with
        | others :: rest =>
            let green := step % 64 - 32
            readPixels wanted hasAlpha
              (state.change (green - 8 + others / 16) green (green - 8 + others % 16)) rest
        | [] => none
      else readPixels wanted hasAlpha (state.repeated wanted (step.toNat % 64 + 1)) rest

/-- The pixels as they are shown: without opacities, all of them are opaque. -/
def shown (hasAlpha : Bool) (pixels : Array Pixel) : Array Pixel :=
  if hasAlpha then pixels else pixels.map fun pixel => { pixel with alpha := 255 }

/-- Decode a file with this signature. -/
def decode (file : ByteArray) : Except ImageError Raster := do
  let width := bigEndian (bytesAt file 4 4)
  let height := bigEndian (bytesAt file 8 4)
  match bytesAt file 12 2 with
  | [channels, colourSpace] =>
      if width * height = 0 ∨ maxPixels < width * height ∨ (channels ≠ 3 ∧ channels ≠ 4) ∨
          1 < colourSpace then
        .error .damaged
      else
        grantMemory width height channels.toNat
        let hasAlpha := channels = 4
        match readPixels (width * height) hasAlpha {} (file.data.toList.drop headerBytes) with
        | some (pixels, rest) =>
            if rest.take ending.length = ending then
              return .ofPixels width height (shown hasAlpha pixels)
            else .error .damaged
        | none => .error .damaged
  | _ => .error .damaged

end GuiExplorer.Image.Qoi
