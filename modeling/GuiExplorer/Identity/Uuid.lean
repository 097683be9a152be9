import GuiExplorer.Identity.Sha1

/-!
# Universally unique identifiers

Sixteen bytes, written as hexadecimal digits in groups.  Identifiers derived
from content are name-based: version 5, from the SHA-1 hash of a namespace
followed by the name.
-/

namespace GuiExplorer

/-- An identifier of sixteen bytes. -/
structure Uuid where
  bytes : List UInt8
  size_eq : bytes.length = 16
deriving DecidableEq

namespace Uuid

/-- The identifier of sixteen zero bytes. -/
def nil : Uuid :=
  ⟨List.replicate 16 0, rfl⟩

instance : Inhabited Uuid := ⟨nil⟩

/-- Order by bytes, the first byte counting most. -/
instance : LE Uuid := ⟨fun left right => left.bytes ≤ right.bytes⟩

instance : LT Uuid := ⟨fun left right => left.bytes < right.bytes⟩

instance (left right : Uuid) : Decidable (left ≤ right) :=
  inferInstanceAs (Decidable (left.bytes ≤ right.bytes))

instance (left right : Uuid) : Decidable (left < right) :=
  inferInstanceAs (Decidable (left.bytes < right.bytes))

/-- Identifiers with equal bytes are equal. -/
@[ext]
theorem ext {left right : Uuid} (bytes : left.bytes = right.bytes) : left = right := by
  cases left
  cases right
  cases bytes
  rfl

/-- A hexadecimal digit in lower case. -/
def hexDigit (value : UInt8) : Char :=
  if value < 10 then Char.ofNat ('0'.toNat + value.toNat)
  else Char.ofNat ('a'.toNat + (value.toNat - 10))

/-- The two digits of a byte. -/
def hexByte (byte : UInt8) : List Char :=
  [hexDigit (byte / 16), hexDigit (byte % 16)]

/-- Lower-case digits in groups of 8, 4, 4, 4 and 12, joined by hyphens. -/
def chars (id : Uuid) : List Char :=
  let group (start size : Nat) := ((id.bytes.drop start).take size).flatMap hexByte
  group 0 4 ++ '-' :: group 4 2 ++ '-' :: group 6 2 ++ '-' :: group 8 2 ++ '-' :: group 10 6

/-- `chars` as a string. -/
def text (id : Uuid) : String :=
  String.ofList id.chars

instance : ToString Uuid := ⟨text⟩

instance : Repr Uuid := ⟨fun id _ => id.text⟩

/-- The value of a hexadecimal digit of either case. -/
def hexValue? (c : Char) : Option UInt8 :=
  if '0' ≤ c ∧ c ≤ '9' then some (UInt8.ofNat (c.toNat - '0'.toNat))
  else if 'a' ≤ c ∧ c ≤ 'f' then some (UInt8.ofNat (c.toNat - 'a'.toNat + 10))
  else if 'A' ≤ c ∧ c ≤ 'F' then some (UInt8.ofNat (c.toNat - 'A'.toNat + 10))
  else none

/-- The bytes written by pairs of hexadecimal digits. -/
def hexBytes? : List Char → Option (List UInt8)
  | [] => some []
  | [_] => none
  | high :: low :: rest => do
      let high ← hexValue? high
      let low ← hexValue? low
      let bytes ← hexBytes? rest
      some ((high * 16 + low) :: bytes)

/-- The identifier with these bytes, if there are sixteen. -/
def ofBytes? (bytes : List UInt8) : Option Uuid :=
  if size_eq : bytes.length = 16 then some ⟨bytes, size_eq⟩ else none

/-- Thirty-two digits without hyphens. -/
def ofPlain? (digits : List Char) : Option Uuid :=
  (hexBytes? digits).bind ofBytes?

/-- Thirty-six characters with a hyphen after each of the first four groups. -/
def ofGroups? (text : List Char) : Option Uuid :=
  let hyphen (position : Nat) : Bool := text[position]? = some '-'
  let group (start size : Nat) : List Char := (text.drop start).take size
  if text.length = 36 && hyphen 8 && hyphen 13 && hyphen 18 && hyphen 23 then
    ofPlain? (group 0 8 ++ group 9 4 ++ group 14 4 ++ group 19 4 ++ group 24 12)
  else none

/-- Begins an identifier that is written as a resource name. -/
def resourceName : List Char :=
  "urn:uuid:".toList

/-- Whether a text begins with the mark of resource names, in letters of either
case. -/
def isResourceName (text : List Char) : Bool :=
  resourceName.isPrefixOf (text.map Char.toLower)

/-- Read an identifier in any usual form: plain digits, groups, groups in
braces, or groups as a resource name.  Letters may have either case. -/
def ofChars? (text : List Char) : Option Uuid :=
  if text.length = 32 then ofPlain? text
  else if text.length = 36 then ofGroups? text
  else if text.length = 38 && text.head? = some '\x7b' && text.getLast? = some '\x7d' then
    ofGroups? (text.drop 1).dropLast
  else if text.length = 45 && isResourceName text then
    ofGroups? (text.drop resourceName.length)
  else none

/-- `ofChars?` on strings. -/
def ofText? (text : String) : Option Uuid :=
  ofChars? text.toList

/-- Mark sixteen bytes of a digest as a name-based identifier: version 5 in the
seventh byte, the variant in the ninth. -/
def ofDigest (digest : Sha1.State) : Uuid :=
  let version (byte : UInt8) : UInt8 := (byte &&& 0x0F) ||| 0x50
  let variant (byte : UInt8) : UInt8 := (byte &&& 0x3F) ||| 0x80
  ⟨[(digest.a >>> 24).toUInt8, (digest.a >>> 16).toUInt8, (digest.a >>> 8).toUInt8,
    digest.a.toUInt8,
    (digest.b >>> 24).toUInt8, (digest.b >>> 16).toUInt8,
    version (digest.b >>> 8).toUInt8, digest.b.toUInt8,
    variant (digest.c >>> 24).toUInt8, (digest.c >>> 16).toUInt8, (digest.c >>> 8).toUInt8,
    digest.c.toUInt8,
    (digest.d >>> 24).toUInt8, (digest.d >>> 16).toUInt8, (digest.d >>> 8).toUInt8,
    digest.d.toUInt8], rfl⟩

/-- The namespace of all identifiers derived from widgets and screens. -/
def contentNamespace : Uuid :=
  ⟨[0x6d, 0x1f, 0x3c, 0x2a, 0x8e, 0x4b, 0x5f, 0x70, 0x9a, 0x1d, 0x2b, 0x3c, 0x4d, 0x5e, 0x6f,
    0x70], rfl⟩

/-- The name-based identifier of a byte string. -/
def ofName (name : List UInt8) : Uuid :=
  ofDigest (Sha1.hash (contentNamespace.bytes ++ name))

end Uuid

end GuiExplorer
