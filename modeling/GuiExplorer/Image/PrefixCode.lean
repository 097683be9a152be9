/-!
# Bit streams and canonical prefix codes

A byte string is read as bits, the lowest bit of each byte first.  A prefix code
is given by the lengths of its code words: among words of one length the
smaller symbol has the smaller word, and shorter words come first.
-/

namespace GuiExplorer.Image

/-- The bit at a position. -/
def bit? (bytes : ByteArray) (position : Nat) : Option Nat :=
  bytes[position / 8]?.map fun byte => byte.toNat / Nat.pow 2 (position % 8) % 2

/-- The number in the `count` bits from a position on, the lowest bit first. -/
def number? (bytes : ByteArray) : (count position : Nat) → Option Nat
  | 0, _ => some 0
  | count + 1, position =>
      match bit? bytes position, number? bytes count (position + 1) with
      | some low, some high => some (low + 2 * high)
      | _, _ => none

/-- The longest code word. -/
def maxWordLength : Nat :=
  15

/-- A canonical prefix code. -/
structure PrefixCode where
  /-- How many words there are of each length, from one up to the greatest. -/
  counts : List Nat
  /-- The symbols in the order of their words. -/
  symbols : Array Nat
deriving Repr

namespace PrefixCode

/-- The symbols whose word has the length. -/
def withLength (lengths : List Nat) (length : Nat) : List Nat :=
  (lengths.zipIdx.filter (·.1 = length)).map (·.2)

/-- The code in which symbol `i` has a word of length `lengths[i]`; length zero
means that the symbol has no word. -/
def ofLengths (lengths : List Nat) : PrefixCode :=
  let groups := (List.range' 1 (min maxWordLength (lengths.foldl max 0))).map (withLength lengths)
  ⟨groups.map List.length, groups.flatten.toArray⟩

/-- The share of all bit strings that start with a word, in units of one word of
the greatest length. -/
def covered (code : PrefixCode) : Nat :=
  code.counts.zipIdx.foldl (fun sum (count, i) => sum + count * Nat.pow 2 (maxWordLength - 1 - i)) 0

/-- Whether every bit string starts with exactly one word. -/
def isComplete (code : PrefixCode) : Bool :=
  code.covered = Nat.pow 2 maxWordLength

/-- Whether the code has no words, or one word of a single bit. -/
def isDegenerate (code : PrefixCode) : Bool :=
  code.covered = 0 || (code.symbols.size = 1 && code.counts.head? = some 1)

/-- What is found where a word should start. -/
inductive Found where
  /-- A word of `more + 1` bits. -/
  | symbol (value more : Nat)
  /-- The bits end inside a word. -/
  | cut
  /-- No word starts like this. -/
  | noWord
deriving Repr

/-- Look for a word among those that are longer than `read` bits.  `word` is the
number written by the bits read, `first` the smallest word of the current
length and `index` the place of its symbol. -/
def findFrom (bytes : ByteArray) (symbols : Array Nat) :
    (counts : List Nat) → (word first index read position : Nat) → Found
  | [], _, _, _, _, _ => .noWord
  | count :: longer, word, first, index, read, position =>
      match bit? bytes position with
      | none => .cut
      | some bit =>
          let word := 2 * word + bit
          let first := 2 * first
          if word < first + count then
            match symbols[index + (word - first)]? with
            | some value => .symbol value read
            | none => .noWord
          else findFrom bytes symbols longer word (first + count) (index + count) (read + 1)
            (position + 1)

/-- The word at a position. -/
def find (code : PrefixCode) (bytes : ByteArray) (position : Nat) : Found :=
  findFrom bytes code.symbols code.counts 0 0 0 0 position

end PrefixCode

end GuiExplorer.Image
