/-!
# SHA-1

The secure hash algorithm with a digest of 160 bits, over lists of bytes.
-/

namespace GuiExplorer.Sha1

/-- The chaining value: five words. -/
structure State where
  a : UInt32
  b : UInt32
  c : UInt32
  d : UInt32
  e : UInt32
deriving DecidableEq, Repr

/-- The chaining value before the first block. -/
def initial : State :=
  ⟨0x67452301, 0xEFCDAB89, 0x98BADCFE, 0x10325476, 0xC3D2E1F0⟩

/-- Rotate a word to the left; `0 < amount < 32`. -/
def rotate (amount word : UInt32) : UInt32 :=
  (word <<< amount) ||| (word >>> (32 - amount))

/-- The word written by four bytes, most significant first. -/
def wordOfBytes (b₀ b₁ b₂ b₃ : UInt8) : UInt32 :=
  (b₀.toUInt32 <<< 24) ||| (b₁.toUInt32 <<< 16) ||| (b₂.toUInt32 <<< 8) ||| b₃.toUInt32

/-- Group bytes into words; an incomplete group at the end is dropped. -/
def wordsOfBytes : List UInt8 → List UInt32
  | b₀ :: b₁ :: b₂ :: b₃ :: rest => wordOfBytes b₀ b₁ b₂ b₃ :: wordsOfBytes rest
  | _ => []

/-- The 64-bit length field, most significant byte first. -/
def lengthBytes (bits : UInt64) : List UInt8 :=
  [(bits >>> 56).toUInt8, (bits >>> 48).toUInt8, (bits >>> 40).toUInt8, (bits >>> 32).toUInt8,
   (bits >>> 24).toUInt8, (bits >>> 16).toUInt8, (bits >>> 8).toUInt8, bits.toUInt8]

/-- The end of a message of `size` bytes: a one bit, zeros up to eight bytes
before a block border, and the length in bits. -/
def padding (size : Nat) : List UInt8 :=
  0x80 :: List.replicate ((119 - size % 64) % 64) 0 ++ lengthBytes (UInt64.ofNat (8 * size))

/-- Extend the sixteen words of a block to the eighty of its schedule. -/
def schedule (block : Array UInt32) : Array UInt32 :=
  (List.range 64).foldl
    (fun words i =>
      words.push (rotate 1
        (words.getD (i + 13) 0 ^^^ words.getD (i + 8) 0 ^^^ words.getD (i + 2) 0 ^^^
          words.getD i 0)))
    block

/-- One of the eighty rounds. -/
def round (state : State) (index : Nat) (word : UInt32) : State :=
  let (mix, constant) : UInt32 × UInt32 :=
    if index < 20 then ((state.b &&& state.c) ||| (~~~state.b &&& state.d), 0x5A827999)
    else if index < 40 then (state.b ^^^ state.c ^^^ state.d, 0x6ED9EBA1)
    else if index < 60 then
      ((state.b &&& state.c) ||| (state.b &&& state.d) ||| (state.c &&& state.d), 0x8F1BBCDC)
    else (state.b ^^^ state.c ^^^ state.d, 0xCA62C1D6)
  ⟨rotate 5 state.a + mix + state.e + constant + word, state.a, rotate 30 state.b, state.c,
    state.d⟩

/-- Absorb one block of sixteen words. -/
def absorb (state : State) (block : List UInt32) : State :=
  let words := schedule block.toArray
  let mixed := (List.range 80).foldl (fun s i => round s i (words.getD i 0)) state
  ⟨state.a + mixed.a, state.b + mixed.b, state.c + mixed.c, state.d + mixed.d,
    state.e + mixed.e⟩

/-- Absorb all complete blocks. -/
def absorbAll (state : State) (words : List UInt32) : State :=
  if words.length < 16 then state
  else absorbAll (absorb state (words.take 16)) (words.drop 16)
termination_by words.length
decreasing_by
  simp only [List.length_drop]
  omega

/-- The chaining value after the whole padded message. -/
def hash (message : List UInt8) : State :=
  absorbAll initial (wordsOfBytes (message ++ padding message.length))

end GuiExplorer.Sha1
