/-!
# UTF-8

Encoding and validation of UTF-8 over lists of bytes.  A defect is reported
with the index of the first byte that no complete character covers and, unless
the bytes just end too early, the number of bytes that belong to the defect.
-/

namespace GuiExplorer.Text

/-- The UTF-8 bytes of a text. -/
def utf8Bytes (text : String) : List UInt8 :=
  text.toList.flatMap String.utf8EncodeChar

/-- Why bytes are not UTF-8. -/
structure Utf8Error where
  /-- Number of bytes before the defect. -/
  validUpTo : Nat
  /-- Length of the defect; `none` if the bytes end inside a character. -/
  length : Option Nat
deriving DecidableEq, Repr

/-- The wording of a UTF-8 defect. -/
def Utf8Error.message (error : Utf8Error) : String :=
  match error.length with
  | some length =>
      s!"invalid utf-8 sequence of {length} bytes from index {error.validUpTo}"
  | none => s!"incomplete utf-8 byte sequence from index {error.validUpTo}"

/-- What stands at the head of a list of bytes. -/
inductive Utf8Head where
  /-- One complete character and the bytes after it. -/
  | char (c : Char) (size : Nat) (rest : List UInt8)
  /-- A defect of the given length. -/
  | malformed (length : Nat)
  /-- The bytes end inside a character. -/
  | cut
deriving Repr

/-- Continuation bytes carry six bits each. -/
def isContinuation (byte : UInt8) : Bool :=
  0x80 ≤ byte && byte ≤ 0xBF

/-- The six low bits of a continuation byte. -/
def continuationBits (byte : UInt8) : Nat :=
  byte.toNat % 64

/-- The second bytes that a leading byte of a three-byte character admits: the
shortest form only, and no surrogate. -/
def admitsSecondOfThree (first second : UInt8) : Bool :=
  if first = 0xE0 then 0xA0 ≤ second && second ≤ 0xBF
  else if first = 0xED then 0x80 ≤ second && second ≤ 0x9F
  else isContinuation second

/-- The second bytes that a leading byte of a four-byte character admits: the
shortest form only, and nothing above U+10FFFF. -/
def admitsSecondOfFour (first second : UInt8) : Bool :=
  if first = 0xF0 then 0x90 ≤ second && second ≤ 0xBF
  else if first = 0xF4 then 0x80 ≤ second && second ≤ 0x8F
  else isContinuation second

/-- Read one character from a non-empty list of bytes. -/
def utf8Head (first : UInt8) (rest : List UInt8) : Utf8Head :=
  if first < 0x80 then .char (Char.ofNat first.toNat) 1 rest
  else if 0xC2 ≤ first && first ≤ 0xDF then
    match rest with
    | [] => .cut
    | second :: rest =>
        if isContinuation second then
          .char (Char.ofNat (first.toNat % 32 * 64 + continuationBits second)) 2 rest
        else .malformed 1
  else if 0xE0 ≤ first && first ≤ 0xEF then
    match rest with
    | [] => .cut
    | second :: rest =>
        if admitsSecondOfThree first second then
          match rest with
          | [] => .cut
          | third :: rest =>
              if isContinuation third then
                .char (Char.ofNat (first.toNat % 16 * 4096 +
                  continuationBits second * 64 + continuationBits third)) 3 rest
              else .malformed 2
        else .malformed 1
  else if 0xF0 ≤ first && first ≤ 0xF4 then
    match rest with
    | [] => .cut
    | second :: rest =>
        if admitsSecondOfFour first second then
          match rest with
          | [] => .cut
          | third :: rest =>
              if isContinuation third then
                match rest with
                | [] => .cut
                | fourth :: rest =>
                    if isContinuation fourth then
                      .char (Char.ofNat (first.toNat % 8 * 262144 +
                        continuationBits second * 4096 + continuationBits third * 64 +
                        continuationBits fourth)) 4 rest
                    else .malformed 3
              else .malformed 2
        else .malformed 1
  else .malformed 1

/-- What remains after a character is shorter than what it was read from. -/
theorem utf8Head_rest_length {first : UInt8} {bytes rest : List UInt8} {c : Char} {size : Nat}
    (read : utf8Head first bytes = .char c size rest) : rest.length ≤ bytes.length := by
  unfold utf8Head at read
  repeat' split at read
  all_goals first
    | (simp only [Utf8Head.char.injEq] at read; obtain ⟨_, _, rfl⟩ := read; simp; try omega)
    | simp at read

/-- Decode the bytes from index `start` on, after the characters `before`, which
are held in reverse. -/
def decodeUtf8From (start : Nat) (before : List Char) (bytes : List UInt8) :
    Except Utf8Error (List Char) :=
  match bytes with
  | [] => .ok before.reverse
  | first :: more =>
      match _head : utf8Head first more with
      | .char c size rest => decodeUtf8From (start + size) (c :: before) rest
      | .malformed length => .error ⟨start, some length⟩
      | .cut => .error ⟨start, none⟩
termination_by bytes.length
decreasing_by
  have shorter := utf8Head_rest_length _head
  simp only [List.length_cons]
  omega

/-- The text written by a list of bytes, if they are UTF-8. -/
def decodeUtf8 (bytes : List UInt8) : Except Utf8Error String :=
  match decodeUtf8From 0 [] bytes with
  | .ok text => .ok (String.ofList text)
  | .error error => .error error

/-- Decode after the characters `before`, which are held in reverse, putting the
replacement character U+FFFD in place of each defect. -/
def decodeUtf8Lossy (bytes : List UInt8) (before : List Char := []) : List Char :=
  match bytes with
  | [] => before.reverse
  | first :: more =>
      match _head : utf8Head first more with
      | .char c _ rest => decodeUtf8Lossy rest (c :: before)
      | .malformed length => decodeUtf8Lossy (more.drop (length - 1)) ('\uFFFD' :: before)
      | .cut => ('\uFFFD' :: before).reverse
termination_by bytes.length
decreasing_by
  · have shorter := utf8Head_rest_length _head
    simp only [List.length_cons]
    omega
  · simp only [List.length_drop, List.length_cons]
    omega

end GuiExplorer.Text
