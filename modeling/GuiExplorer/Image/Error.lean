/-!
# Image errors

Why a byte string cannot be read as an image.
-/

namespace GuiExplorer

/-- Why a byte string is no image. -/
inductive ImageError where
  /-- No known image format starts like this. -/
  | unknownFormat
  /-- The format is known, but not this use of it. -/
  | unsupported
  /-- The data end early, or a field of them cannot be read. -/
  | endsEarly
  | damaged
  /-- The pixels take more memory than is granted. -/
  | tooLarge
  /-- The palette ends inside a colour; no decoding can go on from there. -/
  | brokenPalette
deriving DecidableEq, Repr

namespace Image

/-- The memory that the pixels of an image may take, in bytes. -/
def memoryLimit : Nat :=
  512 * 1024 * 1024

/-- Refuse an image whose pixels take too much memory, at a number of bytes each. -/
def grantMemory (width height pixelBytes : Nat) : Except ImageError Unit :=
  if memoryLimit < width * height * pixelBytes then .error .tooLarge else .ok ()

/-- Refuse an image for which the number of bytes does not fit into 64 bits, or whose
pixels take too much memory. -/
def grantCount (width height pixelBytes : Nat) : Except ImageError Unit :=
  if Nat.pow 2 64 ≤ width * height * pixelBytes then .error .unsupported
  else grantMemory width height pixelBytes

end Image

end GuiExplorer
