import GuiExplorer.Image.Ascii
import GuiExplorer.Image.Bytes
import GuiExplorer.Image.Error
import GuiExplorer.Image.Raster

/-!
# Portable maps

A family of simple formats.  A header in ASCII gives the size of the image and the
sample of full brightness; the samples follow, as text or as bytes.  In the six older
formats the header is a sequence of numbers; in the last one it consists of lines.
-/

namespace GuiExplorer.Image.Portable

/-- How the samples are written. -/
inductive Encoding where
  /-- As single digits, 1 for black; blanks between them do not count. -/
  | digits
  /-- As bits, 1 for black; each row takes whole bytes. -/
  | bits
  /-- As decimal numbers between blanks. -/
  | numbers (isWide : Bool)
  /-- As bytes, or as pairs of bytes with the high one first. -/
  | bytes (isWide : Bool)
  /-- As bytes of which none exceeds 1. -/
  | flags
deriving DecidableEq, Repr

/-- The sample that has full brightness once samples are scaled. -/
def Encoding.full : Encoding → Nat
  | .numbers true | .bytes true => 65535
  | _ => 255

/-- What a header tells. -/
structure Header where
  width : Nat
  height : Nat
  /-- Samples of a pixel: one for a grey, three for a colour. -/
  channels : Nat
  /-- The sample of full brightness. -/
  greatest : Nat
  encoding : Encoding
deriving Repr

/-! ## Headers -/

/-- The next word of a header, and the bytes after the one blank that ends it.  A
comment, from `#` to the end of its line, does not count and does not divide words;
`read` is the part of the word read so far, backwards. -/
def readWord (isComment : Bool) (read : List UInt8) :
    List UInt8 → Except ImageError (List UInt8 × List UInt8)
  | [] => if read.isEmpty then .error .endsEarly else .ok (read.reverse, [])
  | byte :: rest =>
      if isComment then readWord (byte ≠ 10 && byte ≠ 13) read rest
      else if byte = 35 then readWord true read rest
      else if isBlank byte then
        if read.isEmpty then readWord false [] rest else .ok (read.reverse, rest)
      else if 128 ≤ byte then .error .damaged
      else readWord false (byte :: read) rest

/-- The next number of a header. -/
def readNumber (bytes : List UInt8) : Except ImageError (Nat × List UInt8) :=
  match readWord false [] bytes with
  | .error error => .error error
  | .ok (word, rest) =>
      match decimal? 0xFFFFFFFF word with
      | some value => .ok (value, rest)
      | none => .error .damaged

/-- The header of a map of black and white. -/
def readBitHeader (encoding : Encoding) (bytes : List UInt8) :
    Except ImageError (Header × List UInt8) := do
  let (width, bytes) ← readNumber bytes
  let (height, bytes) ← readNumber bytes
  return (⟨width, height, 1, 1, encoding⟩, bytes)

/-- The header of a map of greys or of colours. -/
def readSampleHeader (channels : Nat) (encoding : Bool → Encoding) (bytes : List UInt8) :
    Except ImageError (Header × List UInt8) := do
  let (width, bytes) ← readNumber bytes
  let (height, bytes) ← readNumber bytes
  let (greatest, bytes) ← readNumber bytes
  if greatest = 0 ∨ 65535 < greatest then .error .damaged
  else return (⟨width, height, channels, greatest, encoding (255 < greatest)⟩, bytes)

/-- The lines of a header as far as they are read. -/
structure Attributes where
  width : Option Nat := none
  height : Option Nat := none
  depth : Option Nat := none
  greatest : Option Nat := none
  kind : Option (List UInt8) := none

namespace Attributes

/-- A number that is given once. -/
def once (before : Option Nat) (text : List UInt8) : Except ImageError (Option Nat) :=
  match before, decimal? 0xFFFFFFFF text with
  | none, some value => .ok (some value)
  | _, _ => .error .damaged

/-- Take in a line: its name, and the rest of it without the blanks around.  Lines
that give the kind of samples are put together. -/
def add (attributes : Attributes) (name text : List UInt8) : Except ImageError Attributes := do
  if name = ascii "WIDTH" then
    return { attributes with width := ← once attributes.width text }
  else if name = ascii "HEIGHT" then
    return { attributes with height := ← once attributes.height text }
  else if name = ascii "DEPTH" then
    return { attributes with depth := ← once attributes.depth text }
  else if name = ascii "MAXVAL" then
    return { attributes with greatest := ← once attributes.greatest text }
  else if name = ascii "TUPLTYPE" then
    match attributes.kind with
    | none => return { attributes with kind := some text }
    | some kind => return { attributes with kind := some (kind ++ [32] ++ text) }
  else .error .damaged

/-- Channels and encoding of the samples, by their kind; without one, by the depth.
Samples with an opacity are not supported, nor are those of a kind of its own. -/
def layout (kind : Option (List UInt8)) (depth greatest : Nat) :
    Except ImageError (Nat × Encoding) :=
  if greatest = 0 then .error .damaged
  else
    match kind with
    | none =>
        if depth = 1 ∨ depth = 3 then .ok (depth, .bytes false)
        else if depth = 2 ∨ depth = 4 then .error .unsupported
        else .error .damaged
    | some kind =>
        let samples (channels : Nat) : Except ImageError (Nat × Encoding) :=
          if depth = channels ∧ greatest ≤ 65535 then .ok (depth, .bytes (255 < greatest))
          else .error .damaged
        if kind = ascii "BLACKANDWHITE" then
          if depth = 1 ∧ greatest = 1 then .ok (1, .flags) else .error .damaged
        else if kind = ascii "GRAYSCALE" then samples 1
        else if kind = ascii "RGB" then samples 3
        else .error .unsupported

/-- The header that the lines give: all but the kind of samples must be there. -/
def header (attributes : Attributes) : Except ImageError Header :=
  match attributes.width, attributes.height, attributes.depth, attributes.greatest with
  | some width, some height, some depth, some greatest =>
      match layout attributes.kind depth greatest with
      | .error error => .error error
      | .ok (channels, encoding) => .ok ⟨width, height, channels, greatest, encoding⟩
  | _, _, _, _ => .error .damaged

end Attributes

/-- The header lines up to the closing one.  Lines that start with `#` do not
count. -/
def readLines (attributes : Attributes) (bytes : List UInt8) :
    Except ImageError (Header × List UInt8) :=
  match _next : line? bytes with
  | none => .error .damaged
  | some (line, rest) =>
      if !ByteArray.validateUTF8 ⟨line.toArray⟩ then .error .endsEarly
      else if line.head? = some 35 then readLines attributes rest
      else if line.any (128 ≤ ·) then .error .damaged
      else
        let name := line.takeWhile (!isBlank ·)
        if name = ascii "ENDHDR" then
          match attributes.header with
          | .ok header => .ok (header, rest)
          | .error error => .error error
        else
          match attributes.add name (trim (line.drop name.length)) with
          | .ok attributes => readLines attributes rest
          | .error error => .error error
termination_by bytes.length
decreasing_by
  all_goals exact length_lt_of_line? _next

/-- Read a header that consists of lines. -/
def readLineHeader : List UInt8 → Except ImageError (Header × List UInt8)
  | [] => .error .endsEarly
  | byte :: rest => if byte = 10 then readLines {} rest else .error .damaged

/-! ## Samples -/

/-- Read `count` digits 0 and 1; a 1 stands for black. -/
def readDigits (count : Nat) (samples : Array Nat) : List UInt8 → Option (Array Nat)
  | [] => if samples.size = count then some samples else none
  | byte :: rest =>
      if samples.size = count then some samples
      else if isBlank byte then readDigits count samples rest
      else if byte = 48 then readDigits count (samples.push 1) rest
      else if byte = 49 then readDigits count (samples.push 0) rest
      else none

/-- Read `count` numbers that do not exceed a limit, after the samples before. -/
def readNumbers (limit : Nat) : (count : Nat) → Array Nat → List UInt8 → Option (Array Nat)
  | 0, samples, _ => some samples
  | count + 1, samples, bytes =>
      let bytes := bytes.dropWhile isBlank
      match decimal? limit (bytes.takeWhile (!isBlank ·)) with
      | some value =>
          readNumbers limit count (samples.push value) (bytes.dropWhile (!isBlank ·))
      | none => none

namespace Header

/-- The number of samples. -/
def count (header : Header) : Nat :=
  header.width * header.height * header.channels

/-- Bytes of a row of bits. -/
def bitRowBytes (header : Header) : Nat :=
  (header.width + 7) / 8

/-- Read the samples of the image. -/
def samples? (header : Header) (bytes : List UInt8) : Option (Array Nat) :=
  let take (size : Nat) : Option (Array UInt8) :=
    let data := (bytes.take size).toArray
    if data.size = size then some data else none
  match header.encoding with
  | .digits => readDigits header.count #[] bytes
  | .numbers isWide => readNumbers (if isWide then 65535 else 255) header.count #[] bytes
  | .bits => do
      let data ← take (header.bitRowBytes * header.height)
      return (Array.range header.count).map fun index =>
        let column := index % header.width
        let byte := data.getD (index / header.width * header.bitRowBytes + column / 8) 0
        1 - byte.toNat / Nat.pow 2 (7 - column % 8) % 2
  | .bytes true => do
      let data ← take (2 * header.count)
      return (Array.range header.count).map fun index =>
        bigEndian [data.getD (2 * index) 0, data.getD (2 * index + 1) 0]
  | .bytes false => do
      let data ← take header.count
      return data.map (·.toNat)
  | .flags => do
      let data ← take header.count
      if data.any (1 < ·) then none else return data.map (·.toNat)

/-- A sample in eight bits.  Samples are stretched in single precision to the full
range. -/
def channel (header : Header) (value : Nat) : UInt8 :=
  let full := header.encoding.full
  let value :=
    if header.greatest = full then value
    else
      let factor := Float32.ofNat full / Float32.ofNat header.greatest
      min full (Float32.ofNat value * factor).round.toUInt16.toNat
  if full = 255 then UInt8.ofNat value else Pixel.narrow value

/-- The image with the given samples, row by row. -/
def assemble (header : Header) (samples : Array Nat) : Raster :=
  let channel (index : Nat) : UInt8 := header.channel (samples.getD index 0)
  ⟨header.width, header.height, fun column row =>
    let index := row * header.width + column
    if header.channels = 1 then .ofGrey (channel index)
    else .ofColour (channel (3 * index)) (channel (3 * index + 1)) (channel (3 * index + 2))⟩

end Header

/-- The header of a map, by the digit that names its format. -/
def readHeader (format : UInt8) (bytes : List UInt8) : Except ImageError (Header × List UInt8) :=
  if format = 49 then readBitHeader .digits bytes
  else if format = 50 then readSampleHeader 1 .numbers bytes
  else if format = 51 then readSampleHeader 3 .numbers bytes
  else if format = 52 then readBitHeader .bits bytes
  else if format = 53 then readSampleHeader 1 .bytes bytes
  else if format = 54 then readSampleHeader 3 .bytes bytes
  else readLineHeader bytes

/-- Whether a file starts like a portable map. -/
def isMap (file : ByteArray) : Bool :=
  match bytesAt file 0 2 with
  | [letter, digit] => letter = 80 && 49 ≤ digit && digit ≤ 55
  | _ => false

/-- Decode a portable map. -/
def decode (file : ByteArray) : Except ImageError Raster := do
  let (header, bytes) ← readHeader (file[1]?.getD 0) (file.data.toList.drop 2)
  grantCount header.width header.height
    (header.channels * if header.encoding.full = 255 then 1 else 2)
  match header.samples? bytes with
  | some samples => return header.assemble samples
  | none => .error .damaged

end GuiExplorer.Image.Portable
