import GuiExplorer.Text.Digit

/-!
# JSON tokens

A JSON text is first cut into tokens.  A string token keeps the text it stands
for; it has none if one of its escapes is half of a surrogate pair without the
other half.  Such a string is well formed but stands for no text.
-/

namespace GuiExplorer.Json

inductive Token where
  | openArray
  | closeArray
  | openObject
  | closeObject
  | colon
  | comma
  | null
  | bool (value : Bool)
  /-- A number written as an integer. -/
  | int (value : Int)
  /-- A number written with a fraction or an exponent, or as a negative zero. -/
  | real (literal : String)
  | string (content : Option String)
deriving DecidableEq, Repr

namespace Token

/-- The blanks that may stand between tokens. -/
def isSpace (c : Char) : Bool :=
  c = ' ' || c = '\n' || c = '\t' || c = '\r'

/-- A part of a string: a character, or an escaped UTF-16 unit. -/
inductive Piece where
  | char (c : Char)
  | unit (code : Nat)
deriving DecidableEq, Repr

/-- The value of a hexadecimal digit of either case. -/
def hexValue? (c : Char) : Option Nat :=
  if '0' ≤ c ∧ c ≤ '9' then some (c.toNat - '0'.toNat)
  else if 'a' ≤ c ∧ c ≤ 'f' then some (c.toNat - 'a'.toNat + 10)
  else if 'A' ≤ c ∧ c ≤ 'F' then some (c.toNat - 'A'.toNat + 10)
  else none

/-- The UTF-16 unit written by four hexadecimal digits. -/
def unit? (a b c d : Char) : Option Nat :=
  match hexValue? a, hexValue? b, hexValue? c, hexValue? d with
  | some a, some b, some c, some d => some (((a * 16 + b) * 16 + c) * 16 + d)
  | _, _, _, _ => none

/-- The character that a one-letter escape stands for. -/
def escaped? (letter : Char) : Option Char :=
  if letter = '"' then some '"'
  else if letter = '\\' then some '\\'
  else if letter = '/' then some '/'
  else if letter = 'b' then some '\x08'
  else if letter = 'f' then some '\x0c'
  else if letter = 'n' then some '\n'
  else if letter = 'r' then some '\r'
  else if letter = 't' then some '\t'
  else none

/-- Read a string up to and including its closing quote, after the pieces
`before`, which are held in reverse. -/
def scanString (before : List Piece) : List Char → Option (List Piece × List Char)
  | [] => none
  | '"' :: rest => some (before.reverse, rest)
  | '\\' :: 'u' :: a :: b :: c :: d :: rest =>
      match unit? a b c d with
      | some code => scanString (.unit code :: before) rest
      | none => none
  | '\\' :: letter :: rest =>
      match escaped? letter with
      | some c => scanString (.char c :: before) rest
      | none => none
  | c :: rest =>
      if c.toNat < 0x20 ∨ c = '\\' then none else scanString (.char c :: before) rest

/-- Reading a string leaves a shorter text. -/
theorem scanString_rest_length {before pieces : List Piece} {text rest : List Char}
    (read : scanString before text = some (pieces, rest)) : rest.length < text.length := by
  fun_induction scanString before text <;> (try simp only [List.length_cons]) <;> grind

/-- The text of a string: units that are no surrogates stand for themselves,
and a high surrogate together with a low one for a supplementary character. -/
def assemble (before : List Char) : List Piece → Option (List Char)
  | [] => some before.reverse
  | .char c :: rest => assemble (c :: before) rest
  | .unit high :: .unit low :: rest =>
      if high < 0xD800 ∨ 0xE000 ≤ high then
        assemble (Char.ofNat high :: before) (.unit low :: rest)
      else if high < 0xDC00 ∧ 0xDC00 ≤ low ∧ low < 0xE000 then
        assemble (Char.ofNat (0x10000 + (high - 0xD800) * 0x400 + (low - 0xDC00)) :: before) rest
      else none
  | .unit code :: rest =>
      if code < 0xD800 ∨ 0xE000 ≤ code then assemble (Char.ofNat code :: before) rest
      else none

/-- Characters that occur in numbers. -/
def isNumeric (c : Char) : Bool :=
  c.isDigit || c = '-' || c = '+' || c = '.' || c = 'e' || c = 'E'

/-- An exponent without its letter: digits after an optional sign. -/
def isExponent (text : List Char) : Bool :=
  let digits := match text with
    | '+' :: rest => rest
    | '-' :: rest => rest
    | _ => text
  !digits.isEmpty && digits.all Char.isDigit

/-- What may follow the integer part of a number: a fraction, an exponent, or a
fraction with an exponent. -/
def isFraction (text : List Char) : Bool :=
  match text with
  | '.' :: rest =>
      !(rest.takeWhile Char.isDigit).isEmpty &&
        match rest.dropWhile Char.isDigit with
        | [] => true
        | 'e' :: power => isExponent power
        | 'E' :: power => isExponent power
        | _ => false
  | 'e' :: power => isExponent power
  | 'E' :: power => isExponent power
  | _ => false

/-- The token of an unsigned literal, or of a negated one. -/
def ofMagnitude (negative : Bool) (literal : List Char) : Option Token :=
  let digits := literal.takeWhile Char.isDigit
  let rest := literal.dropWhile Char.isDigit
  let written := if negative then '-' :: literal else literal
  if digits.isEmpty || (digits.head? = some '0' && 1 < digits.length) then none
  else if rest.isEmpty then
    if negative then
      if digits = ['0'] then some (.real (String.ofList written))
      else some (.int (-(Text.ofDigits digits : Int)))
    else some (.int (Text.ofDigits digits))
  else if isFraction rest then some (.real (String.ofList written))
  else none

/-- The token of a number literal.  A number has no superfluous leading zero. -/
def ofLiteral (literal : List Char) : Option Token :=
  match literal with
  | '-' :: rest => ofMagnitude true rest
  | _ => ofMagnitude false literal

/-- Cut a text into tokens, after the tokens `before`, which are held in
reverse. -/
def scan (before : List Token) (text : List Char) : Option (List Token) :=
  match text with
  | [] => some before.reverse
  | '[' :: rest => scan (.openArray :: before) rest
  | ']' :: rest => scan (.closeArray :: before) rest
  | '\x7b' :: rest => scan (.openObject :: before) rest
  | '\x7d' :: rest => scan (.closeObject :: before) rest
  | ':' :: rest => scan (.colon :: before) rest
  | ',' :: rest => scan (.comma :: before) rest
  | 'n' :: 'u' :: 'l' :: 'l' :: rest => scan (.null :: before) rest
  | 't' :: 'r' :: 'u' :: 'e' :: rest => scan (.bool true :: before) rest
  | 'f' :: 'a' :: 'l' :: 's' :: 'e' :: rest => scan (.bool false :: before) rest
  | '"' :: rest =>
      match _read : scanString [] rest with
      | some (pieces, after) =>
          scan (.string ((assemble [] pieces).map String.ofList) :: before) after
      | none => none
  | c :: rest =>
      if isSpace c then scan before rest
      else if isNumeric c then
        match ofLiteral (c :: rest.takeWhile isNumeric) with
        | some token => scan (token :: before) (rest.dropWhile isNumeric)
        | none => none
      else none
termination_by text.length
decreasing_by
  all_goals simp only [List.length_cons]
  all_goals first
    | omega
    | (have shorter := scanString_rest_length _read; omega)
    | (have shorter := (List.dropWhile_suffix (l := rest) isNumeric).length_le; omega)

end Token

end GuiExplorer.Json
