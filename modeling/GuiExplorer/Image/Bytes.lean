import GuiExplorer.Image.Error

/-!
# Bytes of a file

Parts of a byte string, and the numbers that they write.
-/

namespace GuiExplorer.Image

/-- The number written by bytes, most significant first. -/
def bigEndian (bytes : List UInt8) : Nat :=
  bytes.foldl (fun value byte => 256 * value + byte.toNat) 0

/-- The number written by bytes, least significant first. -/
def littleEndian (bytes : List UInt8) : Nat :=
  bigEndian bytes.reverse

/-- The bytes from a position on, as many as there are. -/
def bytesAt (bytes : ByteArray) (position count : Nat) : List UInt8 :=
  (bytes.extract position (position + count)).data.toList

/-- The bytes of an ASCII text. -/
def ascii (text : String) : List UInt8 :=
  text.toUTF8.data.toList

/-- The number written by `count` bytes from a position on, least significant first, if
they are all there. -/
def littleAt? (bytes : ByteArray) (position count : Nat) : Option Nat :=
  if position + count ≤ bytes.size then some (littleEndian (bytesAt bytes position count))
  else none

/-- The number written by `count` bytes from a position on, least significant first; they
must all be there. -/
def littleAt (bytes : ByteArray) (position count : Nat) : Except ImageError Nat :=
  match littleAt? bytes position count with
  | some value => .ok value
  | none => .error .endsEarly

end GuiExplorer.Image
