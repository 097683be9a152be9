import GuiExplorer.Image.Bytes
import GuiExplorer.Image.Checksum

/-!
# Chunks of a PNG file

After its signature a PNG file is a sequence of chunks.  A chunk has a size, a name
of four bytes, contents and a check.  The first letter of the name tells whether an
image can be decoded without the chunk.
-/

namespace GuiExplorer.Image.Png

/-- The first bytes of every PNG file. -/
def signature : List UInt8 :=
  [0x89, 0x50, 0x4E, 0x47, 0x0D, 0x0A, 0x1A, 0x0A]

/-- A chunk, as its first eight bytes announce it. -/
structure Chunk where
  name : List UInt8
  size : Nat
  /-- Where the contents start. -/
  start : Nat

/-- The chunk that starts at a position. -/
def chunkAt? (file : ByteArray) (position : Nat) : Option Chunk :=
  if file.size < position + 8 then none
  else some ⟨bytesAt file (position + 4) 4, bigEndian (bytesAt file position 4), position + 8⟩

namespace Chunk

/-- Whether the chunk has the name. -/
def isNamed (chunk : Chunk) (name : String) : Bool :=
  chunk.name = ascii name

/-- Whether decoding may go on without the chunk: the first letter of its name is in
lower case. -/
def isAncillary (chunk : Chunk) : Bool :=
  chunk.name.head?.any fun byte => byte &&& 0x20 ≠ 0

/-- The chunks of limited size that a decoder knows, with the least and the greatest
size. -/
def limits : List (String × Nat × Nat) :=
  [("IHDR", 13, 13), ("PLTE", 3, 768), ("IEND", 0, 0), ("tRNS", 1, 256),
    ("fcTL", 26, 26), ("cICP", 4, 4), ("bKGD", 1, 6)]

/-- The limits for the size of the chunk, if it has any. -/
def limit? (chunk : Chunk) : Option (Nat × Nat) :=
  (limits.find? fun (name, _) => chunk.isNamed name).map (·.2)

/-- Whether the chunk has a size that it may have. -/
def isWithinLimits (chunk : Chunk) : Bool :=
  match chunk.limit? with
  | some (least, greatest) => least ≤ chunk.size && chunk.size ≤ greatest
  | none => true

/-- Whether the contents, and the check after them, are in the file. -/
def isWhole (file : ByteArray) (chunk : Chunk) : Bool :=
  chunk.start + chunk.size + 4 ≤ file.size

/-- Whether name and contents match the check. -/
def isIntact (file : ByteArray) (chunk : Chunk) : Bool :=
  (crc (file.extract (chunk.start - 4) (chunk.start + chunk.size))).toNat =
    bigEndian (bytesAt file (chunk.start + chunk.size) 4)

/-- The contents. -/
def contents (file : ByteArray) (chunk : Chunk) : List UInt8 :=
  bytesAt file chunk.start chunk.size

end Chunk

end GuiExplorer.Image.Png
