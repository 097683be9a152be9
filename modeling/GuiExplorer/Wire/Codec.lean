import GuiExplorer.Text.Utf8

/-!
# Binary encoding

Messages are encoded without padding: integers have a fixed width and start with
the least significant byte, strings and lists come after their length in 64
bits, and a choice after its index in 32 bits.  Decoding returns the bytes it
did not need; they are allowed.

A codec pairs an encoder with a decoder, and codecs of records are put together
from codecs of their parts.
-/

namespace GuiExplorer.Wire

/-- Blocks of bytes are compared byte by byte. -/
instance decidableEqBytes : DecidableEq ByteArray :=
  ByteArray.instDecidableEq

/-- Why bytes are no encoding of a message. -/
inductive CodecError where
  /-- The bytes end inside a number, a tag or a list. -/
  | endOfInput
  /-- The bytes end inside a string. -/
  | endOfString
  /-- A choice with an index that none of its `count` variants has. -/
  | noVariant (found count : Nat)
  | badBool (found : Nat)
  | badOption (found : Nat)
  | badString (error : Text.Utf8Error)
deriving DecidableEq, Repr

/-- The wording of an encoding error. -/
def CodecError.message : CodecError → String
  | .endOfInput => "io error: unexpected end of file"
  | .endOfString => "io error: "
  | .noVariant found count =>
      "invalid value: integer `" ++ toString found ++ "`, expected variant index 0 <= i < " ++
        toString count
  | .badBool found => "invalid u8 while decoding bool, expected 0 or 1, found " ++ toString found
  | .badOption found => "tag for enum is not valid, found " ++ toString found
  | .badString error => "string is not valid utf8: " ++ error.message

/-- The result of decoding: a value and the bytes after it. -/
abbrev Decoded (α : Type) := Except CodecError (α × List UInt8)

/-- A way to write values as bytes and to read them back. -/
structure Codec (α : Type) where
  encode : α → List UInt8
  decode : List UInt8 → Decoded α

/-- The encoding of a value as a block of bytes. -/
def Codec.toBytes (codec : Codec α) (value : α) : ByteArray :=
  ⟨(codec.encode value).toArray⟩

/-- The value that a block of bytes begins with, and the bytes after it. -/
def Codec.ofBytes (codec : Codec α) (block : ByteArray) : Decoded α :=
  codec.decode block.data.toList

/-- The low `width` bytes of a number, least significant first. -/
def littleEndian : Nat → Nat → List UInt8
  | 0, _ => []
  | width + 1, value => UInt8.ofNat (value % 256) :: littleEndian width (value / 256)

/-- The number written by bytes, least significant first. -/
def ofLittleEndian : List UInt8 → Nat
  | [] => 0
  | byte :: rest => byte.toNat + 256 * ofLittleEndian rest

/-- Split off the first `count` bytes, if there are so many. -/
def splitBytes (count : Nat) (bytes : List UInt8) : Option (List UInt8 × List UInt8) :=
  if bytes.length < count then none else some (bytes.splitAt count)

namespace Codec

/-- Numbers of `width` bytes. -/
def nat (width : Nat) : Codec Nat where
  encode value := littleEndian width value
  decode bytes :=
    match splitBytes width bytes with
    | some (digits, rest) => .ok (ofLittleEndian digits, rest)
    | none => .error .endOfInput

/-- Decode a value and wrap it. -/
def read (codec : Codec α) (wrap : α → β) (bytes : List UInt8) : Decoded β :=
  match codec.decode bytes with
  | .ok (value, rest) => .ok (wrap value, rest)
  | .error error => .error error

/-- The same bytes for values of another type. -/
def map (codec : Codec α) (wrap : α → β) (unwrap : β → α) : Codec β where
  encode value := codec.encode (unwrap value)
  decode := codec.read wrap

def byte : Codec UInt8 :=
  (nat 1).map UInt8.ofNat UInt8.toNat

def uint32 : Codec UInt32 :=
  (nat 4).map UInt32.ofNat UInt32.toNat

def uint64 : Codec UInt64 :=
  (nat 8).map UInt64.ofNat UInt64.toNat

/-- Signed numbers as their two's complement. -/
def int32 : Codec Int32 :=
  uint32.map UInt32.toInt32 Int32.toUInt32

/-- One byte, zero or one. -/
def bool : Codec Bool where
  encode value := [if value then 1 else 0]
  decode bytes :=
    match bytes with
    | [] => .error .endOfInput
    | tag :: rest =>
        if tag = 0 then .ok (false, rest)
        else if tag = 1 then .ok (true, rest)
        else .error (.badBool tag.toNat)

/-- A byte that tells whether a value follows. -/
def option (codec : Codec α) : Codec (Option α) where
  encode value :=
    match value with
    | none => [0]
    | some value => 1 :: codec.encode value
  decode bytes :=
    match bytes with
    | [] => .error .endOfInput
    | tag :: rest =>
        if tag = 0 then .ok (none, rest)
        else if tag = 1 then
          match codec.decode rest with
          | .ok (value, rest) => .ok (some value, rest)
          | .error error => .error error
        else .error (.badOption tag.toNat)

/-- A length and the UTF-8 bytes. -/
def string : Codec String where
  encode text :=
    let bytes := Text.utf8Bytes text
    uint64.encode (UInt64.ofNat bytes.length) ++ bytes
  decode bytes :=
    match uint64.decode bytes with
    | .error error => .error error
    | .ok (size, rest) =>
        match splitBytes size.toNat rest with
        | none => .error .endOfString
        | some (body, rest) =>
            match Text.decodeUtf8 body with
            | .ok text => .ok (text, rest)
            | .error error => .error (.badString error)

/-- Decode `count` values after those in `before`, which are held in reverse. -/
def decodeMany (codec : Codec α) : Nat → List α → List UInt8 → Decoded (List α)
  | 0, before, bytes => .ok (before.reverse, bytes)
  | count + 1, before, bytes =>
      match codec.decode bytes with
      | .ok (value, rest) => decodeMany codec count (value :: before) rest
      | .error error => .error error

/-- A length and the items. -/
def list (codec : Codec α) : Codec (List α) where
  encode items :=
    uint64.encode (UInt64.ofNat items.length) ++ items.flatMap codec.encode
  decode bytes :=
    match uint64.decode bytes with
    | .error error => .error error
    | .ok (count, rest) => decodeMany codec count.toNat [] rest

/-- Two values one after the other. -/
def pair (first : Codec α) (second : Codec β) : Codec (α × β) where
  encode values := first.encode values.1 ++ second.encode values.2
  decode bytes :=
    match first.decode bytes with
    | .error error => .error error
    | .ok (left, rest) =>
        match second.decode rest with
        | .error error => .error error
        | .ok (right, rest) => .ok ((left, right), rest)

/-- Byte strings, as lists of bytes. -/
def bytes : Codec ByteArray :=
  (list byte).map (fun items => ⟨items.toArray⟩) (fun block => block.data.toList)

end Codec

end GuiExplorer.Wire
