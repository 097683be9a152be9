import GuiExplorer.Image.Ascii
import GuiExplorer.Image.Bytes
import GuiExplorer.Image.Error
import GuiExplorer.Image.Raster

/-!
# Radiance images

Lines of a header, then rows of pixels.  Three brightnesses share an exponent, so that
they can be greater than white; what is shown is cut off there.  Rows are compressed
channel by channel, or pixel by pixel in older files.
-/

namespace GuiExplorer.Image.Radiance

/-- The bytes that a file starts with. -/
def signature : List UInt8 :=
  ascii "#?RADIANCE"

/-- Bytes of a pixel in memory. -/
def pixelBytes : Nat :=
  12

/-! ## Header -/

/-- Check a line of the header: name and value with `=` between them.  The names of a few
values are known, and these must be right; lines without `=` do not count. -/
def checkLine (line : List UInt8) : Except ImageError Unit :=
  let name := trim (line.takeWhile (· ≠ 61))
  let value := trim (line.drop ((line.takeWhile (· ≠ 61)).length + 1))
  let require (isRight : Bool) (error : ImageError) : Except ImageError Unit :=
    if isRight then .ok () else .error error
  if !line.contains 61 then .ok ()
  else if name = ascii "FORMAT" then require (value = ascii "32-bit_rle_rgbe") .unsupported
  else if name = ascii "EXPOSURE" ∨ name = ascii "PIXASPECT" then require (isReal value) .damaged
  else if name = ascii "COLORCORR" then
    require ((words value).length = 3 && (words value).all isReal) .damaged
  else .ok ()

/-- Read the lines of the header up to the empty one that ends it, and return what follows.
Lines that start with `#` do not count. -/
def readHeader (bytes : List UInt8) : Except ImageError (List UInt8) :=
  match _next : line? bytes with
  | none => .error .damaged
  | some (line, rest) =>
      if line.isEmpty then .ok rest
      else if line.head? = some 35 then readHeader rest
      else
        match checkLine line with
        | .ok () => readHeader rest
        | .error error => .error error
termination_by bytes.length
decreasing_by
  all_goals exact length_lt_of_line? _next

/-- Width and height, from the line that gives the height first, downward, and then the
width. -/
def size (line : List UInt8) : Except ImageError (Nat × Nat) :=
  match words line with
  | [vertical, height, horizontal, width] =>
      if vertical = ascii "-Y" ∧ horizontal = ascii "+X" then
        match decimal? 0xFFFFFFFF height, decimal? 0xFFFFFFFF width with
        | some height, some width => .ok (width, height)
        | _, _ => .error .damaged
      else .error .unsupported
  | _ => .error .damaged

/-! ## Rows -/

/-- A pixel as it is stored. -/
structure Shared where
  red : UInt8
  green : UInt8
  blue : UInt8
  exponent : UInt8
deriving DecidableEq, Repr

namespace Shared

/-- Whether the pixel only says that the one before is repeated. -/
def isRun (pixel : Shared) : Bool :=
  pixel.red = 1 && pixel.green = 1 && pixel.blue = 1

/-- A channel in eight bits: the exponent 136 stands for one, which is white. -/
def channel (pixel : Shared) (mantissa : UInt8) : UInt8 :=
  let unit := Nat.pow 2 (136 - pixel.exponent.toNat)
  UInt8.ofNat (min 255 ((2 * 255 * mantissa.toNat + unit) / (2 * unit)))

/-- The pixel as it is shown. -/
def shown (pixel : Shared) : Pixel :=
  .ofColour (pixel.channel pixel.red) (pixel.channel pixel.green) (pixel.channel pixel.blue)

end Shared

/-- Read a channel of a row, after the values read before: runs of one value, and values
as they are.  They must not go beyond the row. -/
def readChannel (width : Nat) (values : Array UInt8) :
    (bytes : List UInt8) → Except ImageError (Array UInt8 × List UInt8)
  | [] => if width ≤ values.size then .ok (values, []) else .error .endsEarly
  | count :: rest =>
      if width ≤ values.size then .ok (values, count :: rest)
      else if count ≤ 128 then
        let count := count.toNat
        if width < values.size + count then .error .damaged
        else if rest.length < count then .error .endsEarly
        else readChannel width (values ++ (rest.take count).toArray) (rest.drop count)
      else
        let count := count.toNat - 128
        if width < values.size + count then .error .damaged
        else
          match rest with
          | [] => .error .endsEarly
          | value :: rest => readChannel width (values ++ Array.replicate count value) rest
termination_by bytes => bytes.length
decreasing_by
  all_goals
    simp only [List.length_drop, List.length_cons]
    omega

/-- Read the rest of a row of an older file, after its last pixel so far.  Runs that
follow each other are digits of one number, the lowest first, and `unit` is the value of
the next. -/
def readPixels (width unit : Nat) (last : Shared) (pixels : Array Shared) :
    (bytes : List UInt8) → Except ImageError (Array Shared × List UInt8)
  | red :: green :: blue :: exponent :: rest =>
      if width ≤ pixels.size then .ok (pixels, red :: green :: blue :: exponent :: rest)
      else
        let pixel : Shared := ⟨red, green, blue, exponent⟩
        if pixel.isRun then
          let count := exponent.toNat * unit
          if width < pixels.size + count then .error .damaged
          else
            readPixels width (256 * unit) last (pixels ++ Array.replicate count last) rest
        else readPixels width 1 pixel (pixels.push pixel) rest
  | rest => if width ≤ pixels.size then .ok (pixels, rest) else .error .endsEarly

/-- Read a row.  It is compressed channel by channel if it starts with a pixel that does
not occur otherwise. -/
def readRow (width : Nat) : List UInt8 → Except ImageError (Array Shared × List UInt8)
  | red :: green :: blue :: exponent :: rest => do
      let first : Shared := ⟨red, green, blue, exponent⟩
      if red = 2 ∧ green = 2 ∧ blue < 128 then
        let (reds, rest) ← readChannel width #[] rest
        let (greens, rest) ← readChannel width #[] rest
        let (blues, rest) ← readChannel width #[] rest
        let (exponents, rest) ← readChannel width #[] rest
        let pixel (column : Nat) : Shared :=
          ⟨reds.getD column 0, greens.getD column 0, blues.getD column 0, exponents.getD column 0⟩
        return ((Array.range width).map pixel, rest)
      else if first.isRun then .error .damaged
      else readPixels width 1 first #[first] rest
  | _ => .error .endsEarly

/-- Read rows, after the pixels before. -/
def readRows (width : Nat) :
    (count : Nat) → Array Pixel → List UInt8 → Except ImageError (Array Pixel)
  | 0, pixels, _ => .ok pixels
  | count + 1, pixels, bytes =>
      match readRow width bytes with
      | .ok (row, rest) => readRows width count (pixels ++ row.map Shared.shown) rest
      | .error error => .error error

/-- Decode a file with this signature. -/
def decode (file : ByteArray) : Except ImageError Raster := do
  let bytes := file.data.toList.drop signature.length
  let bytes ← readHeader (((line? bytes).map (·.2)).getD [])
  match line? bytes with
  | none => .error .damaged
  | some (line, bytes) =>
      let (width, height) ← size line
      grantCount width height pixelBytes
      let pixels ← readRows width (if width = 0 then 0 else height) #[] bytes
      return .ofPixels width height pixels

end GuiExplorer.Image.Radiance
