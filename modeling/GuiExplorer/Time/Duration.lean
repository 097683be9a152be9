/-!
# Durations

A duration is a whole number of nanoseconds.  Its text uses the largest unit
that gives a value of at least one, and as many fraction digits as are needed.
-/

namespace GuiExplorer

/-- A span of time in nanoseconds. -/
structure Duration where
  nanoseconds : Nat
deriving DecidableEq, Repr, Inhabited

namespace Duration

def ofMillis (milliseconds : Nat) : Duration :=
  ⟨milliseconds * 1000000⟩

def ofSeconds (seconds : Nat) : Duration :=
  ⟨seconds * 1000000000⟩

/-- The digits after the decimal point of `part / 10 ^ places`, without
trailing zeros. -/
def fraction (places part : Nat) : String :=
  let digits := Nat.toDigits 10 part
  let filled := List.replicate (places - digits.length) '0' ++ digits
  let shown := (filled.reverse.dropWhile (· = '0')).reverse
  if shown.isEmpty then "" else String.ofList ('.' :: shown)

/-- `nanoseconds` counted in a unit of `10 ^ places` nanoseconds. -/
def inUnit (places : Nat) (unit : String) (nanoseconds : Nat) : String :=
  let size := Nat.pow 10 places
  toString (nanoseconds / size) ++ fraction places (nanoseconds % size) ++ unit

/-- For example `1.5s`, `60s`, `999µs` and `0ns`. -/
def text (duration : Duration) : String :=
  let nanoseconds := duration.nanoseconds
  if 1000000000 ≤ nanoseconds then inUnit 9 "s" nanoseconds
  else if 1000000 ≤ nanoseconds then inUnit 6 "ms" nanoseconds
  else if 1000 ≤ nanoseconds then inUnit 3 "µs" nanoseconds
  else inUnit 0 "ns" nanoseconds

end Duration

end GuiExplorer
