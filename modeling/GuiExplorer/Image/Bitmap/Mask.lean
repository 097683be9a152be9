import GuiExplorer.Image.Raster

/-!
# Channels of packed pixels

A packed pixel is a number in which each channel has a range of bits.  Where a channel
has more than eight bits, only the upper eight count.
-/

namespace GuiExplorer.Image.Bitmap

/-- The bits of a channel: how many there are, and how many are below them.  Without
bits the channel is not there. -/
structure Mask where
  shift : Nat
  length : Nat
deriving DecidableEq, Repr

namespace Mask

/-- The channel whose bits are the ones of a number; they follow each other within the
lowest `limit` bits. -/
def ofNumber? (limit number : Nat) : Option Mask :=
  match (List.range 32).find? number.testBit with
  | none => some ⟨0, 0⟩
  | some shift =>
      let length := (List.range 32).countP number.testBit
      if number = (Nat.pow 2 length - 1) * Nat.pow 2 shift ∧ length + shift ≤ limit then
        some ⟨shift + (length - 8), min length 8⟩
      else none

/-- The channel in eight bits: its range is stretched to the full one, and rounded. -/
def read (mask : Mask) (packed : Nat) : UInt8 :=
  let greatest := Nat.pow 2 mask.length - 1
  let value := packed / Nat.pow 2 mask.shift % Nat.pow 2 mask.length
  UInt8.ofNat ((2 * 255 * value + greatest) / (2 * greatest))

end Mask

/-- The channels of a packed pixel. -/
structure Masks where
  red : Mask
  green : Mask
  blue : Mask
  alpha : Mask
deriving DecidableEq, Repr

namespace Masks

/-- Five bits for each colour. -/
def fifteenBits : Masks :=
  ⟨⟨10, 5⟩, ⟨5, 5⟩, ⟨0, 5⟩, ⟨0, 0⟩⟩

/-- Eight bits for each colour, and for the opacity if there is one. -/
def wholeBytes (hasAlpha : Bool) : Masks :=
  ⟨⟨16, 8⟩, ⟨8, 8⟩, ⟨0, 8⟩, if hasAlpha then ⟨24, 8⟩ else ⟨0, 0⟩⟩

/-- The pixel packed in a number. -/
def read (masks : Masks) (packed : Nat) : Pixel :=
  ⟨masks.red.read packed, masks.green.read packed, masks.blue.read packed,
    if masks.alpha.length = 0 then 255 else masks.alpha.read packed⟩

end Masks

end GuiExplorer.Image.Bitmap
