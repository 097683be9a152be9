import GuiExplorer.Image.PrefixCode

/-!
# Compressed indices

Indices are sent as codes for words.  The first codes are the indices themselves; then
come one code that forgets all other words and one that ends the data.  With each code a
new word is learnt: the word before and the first index of this one.  Codes have just
as many bits as the words learnt so far need.
-/

namespace GuiExplorer.Image.Gif

/-- The most bits that a code may have. -/
def maxCodeBits : Nat :=
  12

/-- The words learnt so far, each backwards, and the last one sent. -/
structure Words where
  words : Array (List UInt8)
  last : Option (List UInt8)
  /-- Bits of the next code. -/
  bits : Nat

namespace Words

/-- The words that are known at the start, for indices of a number of bits: one for each
index, and two places without a word. -/
def start (bits : Nat) : Words :=
  let single := (Array.range (Nat.pow 2 bits)).map fun index => [UInt8.ofNat index]
  ⟨(single.push []).push [], none, bits + 1⟩

/-- The word for a code.  A code that is learnt only now stands for the last word
followed by its own first index. -/
def word? (words : Words) (code : Nat) : Option (List UInt8) :=
  match words.words[code]? with
  | some word => some word
  | none =>
      if code = words.words.size then
        words.last.bind fun last => last.getLast?.map (· :: last)
      else none

/-- Learn from a word sent. -/
def learn (words : Words) (word : List UInt8) : Words :=
  match words.last, word.getLast? with
  | some last, some first =>
      if words.words.size < Nat.pow 2 maxCodeBits then
        let learnt := words.words.push (first :: last)
        let bits := if Nat.pow 2 words.bits ≤ learnt.size then words.bits + 1 else words.bits
        ⟨learnt, some word, min bits maxCodeBits⟩
      else { words with last := some word }
  | _, _ => { words with last := some word }

end Words

/-- Read indices from a position on until there are as many as wanted.  At least one bit
is read in each step, so that the number of bits bounds the steps. -/
def readFrom? (data : ByteArray) (bits wanted : Nat) :
    (budget : Nat) → Words → (position : Nat) → Array UInt8 → Option (Array UInt8)
  | 0, _, _, _ => none
  | budget + 1, words, position, indices =>
      if wanted ≤ indices.size then some indices
      else
        match number? data words.bits position with
        | none => none
        | some code =>
            let next := position + words.bits
            if code = Nat.pow 2 bits then
              readFrom? data bits wanted budget (.start bits) next indices
            else if code = Nat.pow 2 bits + 1 then none
            else
              match words.word? code with
              | none => none
              | some word =>
                  readFrom? data bits wanted budget (words.learn word) next
                    (indices ++ word.reverse.toArray)

/-- The wanted number of indices, or a few more, from compressed data for indices of a
number of bits. -/
def readIndices? (data : ByteArray) (bits wanted : Nat) : Option (Array UInt8) :=
  readFrom? data bits wanted (8 * data.size + 2) (.start bits) 0 #[]

end GuiExplorer.Image.Gif
