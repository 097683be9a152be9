import GuiExplorer.Text.Blank
import GuiExplorer.Text.Digit

/-!
# Timestamps

A point in time on the calendar, without a time zone, to the millisecond.  The
second may be a leap second.
-/

namespace GuiExplorer

/-- Date and time of day. -/
structure Timestamp where
  year : Int
  month : Nat
  day : Nat
  hour : Nat
  minute : Nat
  /-- Up to 60, in a leap second. -/
  second : Nat
  millisecond : Nat
deriving DecidableEq, Repr

namespace Timestamp

def isLeapYear (year : Int) : Bool :=
  year % 4 = 0 && (year % 100 ≠ 0 || year % 400 = 0)

def daysInMonth (year : Int) (month : Nat) : Nat :=
  if month = 2 then if isLeapYear year then 29 else 28
  else if month = 4 ∨ month = 6 ∨ month = 9 ∨ month = 11 then 30
  else 31

/-- Whether the parts make a point on the calendar. -/
def isValid (time : Timestamp) : Bool :=
  -262143 ≤ time.year && time.year ≤ 262142 && 1 ≤ time.month && time.month ≤ 12 &&
    1 ≤ time.day && time.day ≤ daysInMonth time.year time.month && time.hour ≤ 23 &&
    time.minute ≤ 59 && time.second ≤ 60 && time.millisecond ≤ 999

/-- A number that orders valid timestamps. -/
def rank (time : Timestamp) : Int :=
  (((((time.year * 13 + time.month) * 32 + time.day) * 24 + time.hour) * 60 + time.minute) * 61 +
    time.second) * 1000 + time.millisecond

/-- Read a number of at most `most` digits, after blanks. -/
def readNumber (most : Nat) (text : List Char) : Option (Nat × List Char) :=
  let text := Text.trimStart text
  let digits := (text.take most).takeWhile Char.isDigit
  if digits.isEmpty then none else some (Text.ofDigits digits, text.drop digits.length)

/-- Read a year, after blanks.  With a sign it may have any number of digits. -/
def readYear (text : List Char) : Option (Int × List Char) :=
  let signed (sign : Int) (rest : List Char) : Option (Int × List Char) :=
    let digits := rest.takeWhile Char.isDigit
    if digits.isEmpty then none
    else some (sign * Text.ofDigits digits, rest.dropWhile Char.isDigit)
  match Text.trimStart text with
  | '-' :: rest => signed (-1) rest
  | '+' :: rest => signed 1 rest
  | text => (readNumber 4 text).map fun (year, rest) => (year, rest)

/-- Skip a character that must stand next. -/
def skip (expected : Char) : List Char → Option (List Char)
  | [] => none
  | c :: rest => if c = expected then some rest else none

/-- Read a fraction of a second: nothing, or a dot and three digits. -/
def readMilliseconds (text : List Char) : Option (Nat × List Char) :=
  match text with
  | '.' :: a :: b :: c :: rest =>
      if a.isDigit && b.isDigit && c.isDigit then some (Text.ofDigits [a, b, c], rest) else none
  | '.' :: _ => none
  | _ => some (0, text)

/-- Read for example `2024-01-31 23:59:59.125`.  Leading zeros may be left out,
and blanks may stand before each number. -/
def ofChars? (text : List Char) : Option Timestamp := do
  let (year, text) ← readYear text
  let text ← skip '-' text
  let (month, text) ← readNumber 2 text
  let text ← skip '-' text
  let (day, text) ← readNumber 2 text
  let (hour, text) ← readNumber 2 text
  let text ← skip ':' text
  let (minute, text) ← readNumber 2 text
  let text ← skip ':' text
  let (second, text) ← readNumber 2 text
  let (millisecond, text) ← readMilliseconds text
  let time : Timestamp := ⟨year, month, day, hour, minute, second, millisecond⟩
  if text.isEmpty && time.isValid then some time else none

/-- `ofChars?` on strings. -/
def ofText? (text : String) : Option Timestamp :=
  ofChars? text.toList

/-- A year in four digits; with a sign if it is negative or has more. -/
def yearText (year : Int) : String :=
  if year < 0 then "-" ++ Text.padded 4 year.natAbs
  else if 9999 < year then "+" ++ Text.padded 4 year.natAbs
  else Text.padded 4 year.natAbs

/-- For example `2024-01-31 23:59:59.125`; a whole second has no fraction. -/
def text (time : Timestamp) : String :=
  yearText time.year ++ "-" ++ Text.padded 2 time.month ++ "-" ++ Text.padded 2 time.day ++ " " ++
    Text.padded 2 time.hour ++ ":" ++ Text.padded 2 time.minute ++ ":" ++
    Text.padded 2 time.second ++
    if time.millisecond = 0 then "" else "." ++ Text.padded 3 time.millisecond

end Timestamp

end GuiExplorer
