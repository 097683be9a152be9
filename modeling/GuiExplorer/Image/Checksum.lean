/-!
# Cyclic redundancy checks

The 32-bit check of a byte string, with the reversed generator polynomial
`0xEDB88320`.
-/

namespace GuiExplorer.Image

/-- Divide by the polynomial, one bit. -/
def crcShift (remainder : UInt32) : UInt32 :=
  if remainder &&& 1 = 1 then (remainder >>> 1) ^^^ 0xEDB88320 else remainder >>> 1

/-- Take in one byte. -/
def crcByte (remainder : UInt32) (byte : UInt8) : UInt32 :=
  (List.range 8).foldl (fun value _ => crcShift value) (remainder ^^^ byte.toUInt32)

/-- The check of a byte string. -/
def crc (bytes : ByteArray) : UInt32 :=
  bytes.foldl crcByte 0xFFFFFFFF ^^^ 0xFFFFFFFF

end GuiExplorer.Image
