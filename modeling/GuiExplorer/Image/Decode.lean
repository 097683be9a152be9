import GuiExplorer.Image.Capture
import GuiExplorer.Image.Farbfeld
import GuiExplorer.Image.Gif
import GuiExplorer.Image.Icon
import GuiExplorer.Image.Portable
import GuiExplorer.Image.Qoi
import GuiExplorer.Image.Radiance

/-!
# Image files

A decoder to rehearse with.  The first bytes of a file tell its format; some formats
are recognized but not decoded.
-/

namespace GuiExplorer

namespace Image

/-- Whether a file starts with the bytes; `none` stands for any byte. -/
def startsLike (file : ByteArray) (signature : List (Option UInt8)) : Bool :=
  signature.length ≤ file.size &&
    (signature.zip (bytesAt file 0 signature.length)).all fun (wanted, byte) =>
      wanted.all (· = byte)

/-- Whether a file starts with exactly the bytes. -/
def startsWith (file : ByteArray) (signature : List UInt8) : Bool :=
  startsLike file (signature.map some)

/-- The formats that are known but not decoded: how their files start, and why there is
no image. -/
def otherFormats : List (List (Option UInt8) × ImageError) :=
  let exactly (bytes : List UInt8) : List (Option UInt8) := bytes.map some
  let any (count : Nat) : List (Option UInt8) := List.replicate count none
  [(exactly [0xFF, 0xD8, 0xFF], .damaged),
   (exactly (ascii "RIFF") ++ any 4 ++ exactly (ascii "WEBP"), .endsEarly),
   (exactly (ascii "MM" ++ [0, 42]), .endsEarly),
   (exactly (ascii "II" ++ [42, 0]), .endsEarly),
   (exactly (ascii "DDS "), .endsEarly),
   (exactly [0, 0] ++ any 2 ++ exactly (ascii "ftypavif"), .unsupported),
   (exactly [0x76, 0x2F, 0x31, 0x01], .damaged)]

end Image

/-- Decode an image file. -/
def Raster.ofFile (file : ByteArray) : Except ImageError Raster :=
  let starts := Image.startsWith file
  if starts Image.Png.signature then Image.Png.decode file
  else if Image.Gif.signatures.any starts then Image.Gif.decode file
  else if starts Image.Bitmap.signature then Image.Bitmap.decode file
  else if starts Image.Icon.signature then Image.Icon.decode file
  else if starts Image.Radiance.signature then Image.Radiance.decode file
  else if starts Image.Qoi.signature then Image.Qoi.decode file
  else if Image.Portable.isMap file then Image.Portable.decode file
  else if starts Image.Farbfeld.signature then Image.Farbfeld.decode file
  else
    match Image.otherFormats.find? fun (signature, _) => Image.startsLike file signature with
    | some (_, error) => .error error
    | none => .error .unknownFormat

/-- The decoder that a rehearsal uses. -/
def Capture.ofFile : Decoder := fun file =>
  match Raster.ofFile file with
  | .ok raster => .image raster
  | .error .brokenPalette => .broken
  | .error _ => .unreadable

end GuiExplorer
