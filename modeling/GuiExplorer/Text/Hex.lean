import GuiExplorer.Identity.Uuid

/-!
# Bytes in hexadecimal

Byte strings written as pairs of hexadecimal digits.
-/

namespace GuiExplorer.Text

/-- Bytes in lower-case digits. -/
def hexText (bytes : List UInt8) : String :=
  String.ofList (bytes.flatMap Uuid.hexByte)

/-- The bytes that a text writes; none if it is malformed. -/
def ofHexText (text : String) : List UInt8 :=
  (Uuid.hexBytes? text.toList).getD []

end GuiExplorer.Text
