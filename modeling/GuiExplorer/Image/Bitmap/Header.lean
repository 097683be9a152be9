import GuiExplorer.Image.Bitmap.Mask
import GuiExplorer.Image.Bytes

/-!
# Headers of bitmaps

The header starts with its own size, which tells its version.  It gives the size of the
image and the way in which the pixels are stored; masks and a palette may follow.
Numbers have their low byte first.
-/

namespace GuiExplorer.Image.Bitmap

/-- The versions of the header. -/
inductive Version where
  /-- The oldest one, with sizes of 16 bits and palette entries of three bytes. -/
  | core
  | info
  /-- With masks for the colours. -/
  | colourMasks
  /-- With masks for the colours and the opacity. -/
  | allMasks
  /-- With all masks and a colour space. -/
  | colourSpace
deriving DecidableEq, Repr

/-- The version whose header has the given size. -/
def Version.ofSize (size : Nat) : Except ImageError Version :=
  if size = 12 then .ok .core
  else if size = 40 then .ok .info
  else if size = 52 then .ok .colourMasks
  else if size = 56 then .ok .allMasks
  else if size = 108 ∨ size = 124 then .ok .colourSpace
  else if size < 12 then .error .damaged
  else .error .unsupported

/-- How the pixels are stored. -/
inductive Storage where
  /-- As entries of the palette. -/
  | palette
  /-- As entries of the palette, in runs. -/
  | runs
  /-- As three bytes: blue, green, red. -/
  | bytes
  /-- As packed numbers. -/
  | packed
deriving DecidableEq, Repr

/-- What a header tells. -/
structure Header where
  width : Nat
  height : Nat
  /-- Whether the first row is the upper one. -/
  isTopDown : Bool
  /-- Bits of a pixel. -/
  bits : Nat
  storage : Storage
  /-- The channels of packed numbers. -/
  masks : Masks
  /-- Bytes of a palette entry. -/
  entryBytes : Nat
  /-- Entries of the palette; zero stands for as many as the pixels can choose from. -/
  colours : Nat
  /-- The position of what follows the header. -/
  stop : Nat
deriving Repr

/-- The greatest width and height. -/
def maxSide : Nat :=
  0xFFFF

/-- Read the rest of a header of the oldest version that starts at a position. -/
def readCore (file : ByteArray) (start : Nat) : Except ImageError Header := do
  let width ← littleAt file (start + 4) 2
  let height ← littleAt file (start + 6) 2
  if (← littleAt file (start + 8) 2) ≠ 1 then .error .damaged
  else
    let bits ← littleAt file (start + 10) 2
    let header (storage : Storage) : Header :=
      ⟨width, height, false, bits, storage, .fifteenBits, 3, 0, start + 12⟩
    if bits = 1 ∨ bits = 4 ∨ bits = 8 then return header .palette
    else if bits = 24 then return header .bytes
    else .error .damaged

/-- Read masks for a number of bits.  All colours need bits; without a mask for the
opacity, it is full. -/
def readMasks (file : ByteArray) (version : Version) (start bits : Nat) :
    Except ImageError Masks := do
  let mask (number : Nat) : Except ImageError Nat := littleAt file (start + 40 + 4 * number) 4
  let red ← mask 0
  let green ← mask 1
  let blue ← mask 2
  let alpha ← if version = .allMasks ∨ version = .colourSpace then mask 3 else .ok 0
  match Mask.ofNumber? bits red, Mask.ofNumber? bits green, Mask.ofNumber? bits blue,
      Mask.ofNumber? bits alpha with
  | some red, some green, some blue, some alpha =>
      if red.length = 0 ∨ green.length = 0 ∨ blue.length = 0 then .error .damaged
      else .ok ⟨red, green, blue, alpha⟩
  | _, _, _, _ => .error .damaged

/-- How pixels of a number of bits are stored, by the number of the compression
method. -/
def storageOf (method bits : Nat) : Except ImageError Storage :=
  match method with
  | 0 =>
      if bits = 1 ∨ bits = 2 ∨ bits = 4 ∨ bits = 8 then .ok .palette
      else if bits = 24 then .ok .bytes
      else if bits = 16 ∨ bits = 32 then .ok .packed
      else .error .damaged
  | 1 => if bits = 8 then .ok .runs else .error .damaged
  | 2 => if bits = 4 then .ok .runs else .error .damaged
  | 3 => if bits = 16 ∨ bits = 32 then .ok .packed else .error .damaged
  | 4 | 5 | 11 | 12 | 13 => .error .unsupported
  | _ => .error .damaged

/-- Read the rest of a header of a later version that starts at a position.  A negative
height means that the first row is the upper one; only rows that are not compressed can
be stored like this.  Without masks there are opacities in icons only. -/
def readInfo (file : ByteArray) (version : Version) (inIcon : Bool) (start size : Nat) :
    Except ImageError Header := do
  let width ← littleAt file (start + 4) 4
  let height ← littleAt file (start + 8) 4
  let isTopDown := Nat.pow 2 31 ≤ height
  let height := if isTopDown then Nat.pow 2 32 - height else height
  if maxSide < width ∨ (!isTopDown ∧ maxSide < height) ∨ height = Nat.pow 2 31 then
    .error .damaged
  else if (← littleAt file (start + 12) 2) ≠ 1 then .error .damaged
  else
    let bits ← littleAt file (start + 14) 2
    let method ← littleAt file (start + 16) 4
    if isTopDown ∧ method ≠ 0 ∧ method ≠ 3 then .error .damaged
    else
      let storage ← storageOf method bits
      let colours ← littleAt file (start + 32) 4
      let _ ← littleAt file (start + 36) 4
      let masks ←
        if method = 3 then readMasks file version start bits
        else if bits = 16 then .ok .fifteenBits
        else .ok (.wholeBytes inIcon)
      let moreBytes := if method = 3 ∧ (version = .info ∨ version = .colourSpace) then 12 else 0
      return ⟨width, height, isTopDown, bits, storage, masks, 4, colours, start + size + moreBytes⟩

/-- Read the header that starts at a position. -/
def readHeader (file : ByteArray) (inIcon : Bool) (start : Nat) : Except ImageError Header := do
  let size ← littleAt file start 4
  let version ← Version.ofSize size
  if version = .core then readCore file start else readInfo file version inIcon start size

end GuiExplorer.Image.Bitmap
