/-!
# Blanks, words and lines

Texts are handled as lists of characters.  A blank is a character with the
Unicode property `White_Space`; trimming and splitting into words go by it,
while a line ends at a line feed, with an optional carriage return before it.
-/

namespace GuiExplorer.Text

/-- The characters with the Unicode property `White_Space`. -/
def isBlank (c : Char) : Bool :=
  let code := c.toNat
  (9 ≤ code && code ≤ 13) || code == 0x20 || code == 0x85 || code == 0xA0 ||
    code == 0x1680 || (0x2000 ≤ code && code ≤ 0x200A) || code == 0x2028 ||
    code == 0x2029 || code == 0x202F || code == 0x205F || code == 0x3000

/-- Drop the leading blanks. -/
def trimStart (text : List Char) : List Char :=
  text.dropWhile isBlank

/-- Drop the trailing blanks. -/
def trimEnd (text : List Char) : List Char :=
  (text.reverse.dropWhile isBlank).reverse

/-- Drop the blanks at both ends. -/
def trim (text : List Char) : List Char :=
  trimEnd (trimStart text)

/-- `trim` on strings. -/
def trimmed (text : String) : String :=
  String.ofList (trim text.toList)

/-- The maximal runs of characters that are not blank, in order. -/
def words (text : List Char) : List (List Char) :=
  match _shape : text.dropWhile isBlank with
  | [] => []
  | first :: rest =>
      (first :: rest.takeWhile (!isBlank ·)) :: words (rest.dropWhile (!isBlank ·))
termination_by text.length
decreasing_by
  have shorter := (List.dropWhile_suffix (l := text) isBlank).length_le
  have tail := (List.dropWhile_suffix (l := rest) (!isBlank ·)).length_le
  simp only [_shape, List.length_cons] at shorter
  omega

/-- A line without the carriage return before its line feed. -/
def dropReturn (line : List Char) : List Char :=
  if line.getLast? = some '\r' then line.dropLast else line

/-- The lines of a text.  The last one counts only if it is not empty, and
keeps a carriage return that no line feed follows. -/
def lines (text : List Char) : List (List Char) :=
  match (text.splitOn '\n').reverse with
  | [] => []
  | [] :: complete => (complete.map dropReturn).reverse
  | last :: complete => (complete.map dropReturn).reverse ++ [last]

/-- Whether `part` occurs somewhere in `text`. -/
def occursIn (part text : List Char) : Bool :=
  match text with
  | [] => part.isEmpty
  | c :: rest => part.isPrefixOf (c :: rest) || occursIn part rest

/-- Whether the string `part` occurs somewhere in `text`. -/
def contains (text part : String) : Bool :=
  occursIn part.toList text.toList

/-- Whether `text` ends with `part`. -/
def endsWith (text part : String) : Bool :=
  part.toList.isSuffixOf text.toList

/-- Lower-case an ASCII letter; every other character stays. -/
def lowerAscii (c : Char) : Char :=
  if 'A' ≤ c ∧ c ≤ 'Z' then Char.ofNat (c.toNat + 32) else c

/-- Equality up to the case of ASCII letters. -/
def sameIgnoringCase (left right : String) : Bool :=
  left.toList.map lowerAscii == right.toList.map lowerAscii

/-- What stands before and after the first `separator`, if there is one. -/
def splitOnce (separator : Char) (text : List Char) : Option (List Char × List Char) :=
  match text with
  | [] => none
  | c :: rest =>
      if c = separator then some ([], rest)
      else (splitOnce separator rest).map fun (before, after) => (c :: before, after)

end GuiExplorer.Text
