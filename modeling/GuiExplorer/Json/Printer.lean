import GuiExplorer.Json.Basic

/-!
# Writing JSON

Two layouts: compact, without blanks, and indented by two spaces, with one item
or member on a line.  Strings escape quotes, backslashes and the control
characters below U+0020; everything else is written as it is.
-/

namespace GuiExplorer.Json

/-- A hexadecimal digit in lower case. -/
def hexDigit (value : Nat) : Char :=
  if value < 10 then Char.ofNat ('0'.toNat + value) else Char.ofNat ('a'.toNat + (value - 10))

/-- How a character is written inside a string. -/
def escapedChar (c : Char) : List Char :=
  if c = '"' then ['\\', '"']
  else if c = '\\' then ['\\', '\\']
  else if c = '\x08' then ['\\', 'b']
  else if c = '\x0c' then ['\\', 'f']
  else if c = '\n' then ['\\', 'n']
  else if c = '\r' then ['\\', 'r']
  else if c = '\t' then ['\\', 't']
  else if c.toNat < 0x20 then
    ['\\', 'u', '0', '0', hexDigit (c.toNat / 16), hexDigit (c.toNat % 16)]
  else [c]

/-- A string in quotes. -/
def quotedChars (text : String) : List Char :=
  '"' :: text.toList.flatMap escapedChar ++ ['"']

/-- The text of a string value.  One without content is written as the escape
of a lone surrogate. -/
def stringChars : Option String → List Char
  | some text => quotedChars text
  | none => "\"\\ud800\"".toList

/-- An integer in decimal. -/
def intChars : Int → List Char
  | .ofNat value => Nat.toDigits 10 value
  | .negSucc value => '-' :: Nat.toDigits 10 (value + 1)

/-- The text of a value that is not a container with contents. -/
def scalarChars : Json → List Char
  | .null => "null".toList
  | .bool true => "true".toList
  | .bool false => "false".toList
  | .int value => intChars value
  | .real literal => literal.toList
  | .string content => stringChars content
  | .array _ => "[]".toList
  | .object _ => ['\x7b', '\x7d']

mutual

/-- The compact text of a value. -/
def compactChars : Json → List Char
  | .array (first :: rest) => '[' :: compactChars first ++ compactItems rest
  | .object ((key, first) :: rest) =>
      '\x7b' :: stringChars key ++ ':' :: compactChars first ++ compactMembers rest
  | value => scalarChars value

/-- The items after the first, and the closing bracket. -/
def compactItems : List Json → List Char
  | [] => [']']
  | item :: rest => ',' :: compactChars item ++ compactItems rest

/-- The members after the first, and the closing brace. -/
def compactMembers : List (Option String × Json) → List Char
  | [] => ['\x7d']
  | (key, value) :: rest =>
      ',' :: stringChars key ++ ':' :: compactChars value ++ compactMembers rest

end

/-- A line break followed by the indentation of a nesting depth. -/
def lineBreak (depth : Nat) : List Char :=
  '\n' :: List.replicate (2 * depth) ' '

mutual

/-- The indented text of a value at a nesting depth. -/
def prettyChars (depth : Nat) : Json → List Char
  | .array (first :: rest) =>
      '[' :: lineBreak (depth + 1) ++ prettyChars (depth + 1) first ++ prettyItems depth rest
  | .object ((key, first) :: rest) =>
      '\x7b' :: lineBreak (depth + 1) ++ stringChars key ++
        ':' :: ' ' :: prettyChars (depth + 1) first ++ prettyMembers depth rest
  | value => scalarChars value

/-- The items after the first, and the closing bracket. -/
def prettyItems (depth : Nat) : List Json → List Char
  | [] => lineBreak depth ++ [']']
  | item :: rest =>
      ',' :: lineBreak (depth + 1) ++ prettyChars (depth + 1) item ++ prettyItems depth rest

/-- The members after the first, and the closing brace. -/
def prettyMembers (depth : Nat) : List (Option String × Json) → List Char
  | [] => lineBreak depth ++ ['\x7d']
  | (key, value) :: rest =>
      ',' :: lineBreak (depth + 1) ++ stringChars key ++
        ':' :: ' ' :: prettyChars (depth + 1) value ++ prettyMembers depth rest

end

/-- The compact text. -/
def compact (value : Json) : String :=
  String.ofList (compactChars value)

/-- The indented text. -/
def pretty (value : Json) : String :=
  String.ofList (prettyChars 0 value)

end GuiExplorer.Json
