import GuiExplorer.Image.PrefixCode

/-!
# Decompression

The deflate format: blocks of literal bytes and of references to bytes written
before, in a stream with a header of two bytes.  A stream that ends early or is
damaged still yields the bytes before the defect.
-/

namespace GuiExplorer.Image

/-- How a compressed stream ends. -/
inductive StreamEnd where
  | complete
  /-- The bytes end inside the stream. -/
  | cut
  | damaged
deriving DecidableEq, Repr

/-- The result of decompression. -/
structure Inflated where
  output : ByteArray
  ending : StreamEnd

namespace Inflate

/-- The codes of a compressed block. -/
structure Codes where
  literals : PrefixCode
  distances : PrefixCode

/-- The codes of a block that does not describe its own. -/
def fixedCodes : Codes :=
  ⟨.ofLengths (List.replicate 144 8 ++ List.replicate 112 9 ++ List.replicate 24 7 ++
      List.replicate 8 8),
    .ofLengths (List.replicate 30 5)⟩

/-- The least copy length of each length symbol, and its number of extra bits. -/
def lengthClasses : Array (Nat × Nat) :=
  #[(3, 0), (4, 0), (5, 0), (6, 0), (7, 0), (8, 0), (9, 0), (10, 0), (11, 1), (13, 1), (15, 1),
    (17, 1), (19, 2), (23, 2), (27, 2), (31, 2), (35, 3), (43, 3), (51, 3), (59, 3), (67, 4),
    (83, 4), (99, 4), (115, 4), (131, 5), (163, 5), (195, 5), (227, 5), (258, 0)]

/-- The least distance of each distance symbol, and its number of extra bits. -/
def distanceClasses : Array (Nat × Nat) :=
  #[(1, 0), (2, 0), (3, 0), (4, 0), (5, 1), (7, 1), (9, 2), (13, 2), (17, 3), (25, 3), (33, 4),
    (49, 4), (65, 5), (97, 5), (129, 6), (193, 6), (257, 7), (385, 7), (513, 8), (769, 8),
    (1025, 9), (1537, 9), (2049, 10), (3073, 10), (4097, 11), (6145, 11), (8193, 12),
    (12289, 12), (16385, 13), (24577, 13)]

/-- The order in which the lengths of the code for code lengths are given. -/
def lengthOrder : List Nat :=
  [16, 17, 18, 0, 8, 7, 9, 6, 10, 5, 11, 4, 12, 3, 13, 2, 14, 1, 15]

/-- Numbers of three bits each. -/
def readTriples (bytes : ByteArray) : (count position : Nat) → Option (List Nat)
  | 0, _ => some []
  | count + 1, position =>
      match number? bytes 3 position, readTriples bytes count (position + 3) with
      | some first, some rest => some (first :: rest)
      | _, _ => none

/-- Read code lengths until there are `wanted`; `before` holds those read, the
last first, and `used` counts the bits used.  There are at most `wanted`
symbols left to read. -/
def readLengths (bytes : ByteArray) (code : PrefixCode) (start wanted : Nat) :
    (budget used : Nat) → (before : List Nat) → Except StreamEnd (List Nat × Nat)
  | budget, used, before =>
      if before.length = wanted then .ok (before.reverse, used)
      else if wanted < before.length then .error .damaged
      else
        match budget with
        | 0 => .error .damaged
        | budget + 1 =>
            match code.find bytes (start + used) with
            | .cut => .error .cut
            | .noWord => .error .damaged
            | .symbol value more =>
                let used := used + more + 1
                let repeated (bits least : Nat) (length : Nat) :=
                  match number? bytes bits (start + used) with
                  | none => .error .cut
                  | some extra =>
                      readLengths bytes code start wanted budget (used + bits)
                        (List.replicate (least + extra) length ++ before)
                if value < 16 then
                  readLengths bytes code start wanted budget used (value :: before)
                else if value = 16 then
                  match before with
                  | [] => .error .damaged
                  | last :: _ => repeated 2 3 last
                else if value = 17 then repeated 3 3 0
                else repeated 7 11 0

/-- The codes that a block describes, and the bits that the description takes. -/
def describedCodes (bytes : ByteArray) (position : Nat) : Except StreamEnd (Codes × Nat) :=
  match number? bytes 5 position, number? bytes 5 (position + 5),
      number? bytes 4 (position + 10) with
  | some moreLiterals, some moreDistances, some moreLengths =>
      let literals := moreLiterals + 257
      let distances := moreDistances + 1
      if 286 < literals ∨ 30 < distances then .error .damaged
      else
        match readTriples bytes (moreLengths + 4) (position + 14) with
        | none => .error .cut
        | some triples =>
            let given := lengthOrder.zip triples
            let lengthCode := PrefixCode.ofLengths
              ((List.range 19).map fun symbol => (given.lookup symbol).getD 0)
            if !lengthCode.isComplete then .error .damaged
            else
              let header := 14 + 3 * (moreLengths + 4)
              match readLengths bytes lengthCode (position + header) (literals + distances)
                  (literals + distances) 0 [] with
              | .error ending => .error ending
              | .ok (lengths, used) =>
                  let codes : Codes :=
                    ⟨.ofLengths (lengths.take literals), .ofLengths (lengths.drop literals)⟩
                  if lengths[256]? = some 0 ∨ !codes.literals.isComplete ∨
                      !(codes.distances.isComplete || codes.distances.isDegenerate) then
                    .error .damaged
                  else .ok (codes, header + used)
  | _, _, _ => .error .cut

/-- Append `count` bytes, each a copy of the one `distance` places before it. -/
def copyBack (distance : Nat) : Nat → ByteArray → ByteArray
  | 0, output => output
  | count + 1, output =>
      copyBack distance count (output.push (output[output.size - distance]?.getD 0))

/-- A reference to bytes written before. -/
structure Copy where
  length : Nat
  distance : Nat
  /-- Bits that the reference takes after its length symbol. -/
  bits : Nat
deriving Repr

/-- The rest of a copy reference, after its length symbol. -/
def readCopy (bytes : ByteArray) (codes : Codes) (symbol position : Nat) :
    Except StreamEnd Copy :=
  match lengthClasses[symbol - 257]? with
  | none => .error .damaged
  | some (least, bits) =>
      match number? bytes bits position with
      | none => .error .cut
      | some extra =>
          match codes.distances.find bytes (position + bits) with
          | .cut => .error .cut
          | .noWord => .error .damaged
          | .symbol value more =>
              match distanceClasses[value]? with
              | none => .error .damaged
              | some (nearest, farther) =>
                  match number? bytes farther (position + bits + more + 1) with
                  | none => .error .cut
                  | some further =>
                      .ok ⟨least + extra, nearest + further, bits + more + 1 + farther⟩

/-- The number of bytes in a block that is not compressed: two bytes, and the
complement of them in another two. -/
def storedSize (bytes : ByteArray) (start : Nat) : Except StreamEnd Nat :=
  match number? bytes 16 (8 * start), number? bytes 16 (8 * start + 16) with
  | some size, some check => if size + check = 0xFFFF then .ok size else .error .damaged
  | _, _ => .error .cut

/-- The greatest number of bits in the words of two literals that are taken as one. -/
def pairBits : Nat :=
  12

/-- Whether a literal at a position, with a word of `bits` bits, is taken as one with a
literal after it of which some bits are missing: their words fit in twelve bits
together, with zeros in place of the missing bits, and the second has at least two
bits.  Neither counts then. -/
def isHalfPair (bytes : ByteArray) (codes : Codes) (bits position : Nat) : Bool :=
  if 8 * bytes.size < position + pairBits then
    match codes.literals.find (bytes ++ ⟨#[0, 0]⟩) (position + bits) with
    | .symbol value more =>
        value < 256 && 1 ≤ more && bits + more + 1 ≤ pairBits &&
          8 * bytes.size < position + bits + more + 1
    | _ => false
  else false

/-- The result at the end of the last block: the checksum must follow, in the next
four whole bytes. -/
def finished (bytes : ByteArray) (position : Nat) (output : ByteArray) : Inflated :=
  ⟨output, if bytes.size < (position + 7) / 8 + 4 then .cut else .complete⟩

set_option maxRecDepth 3000 in
mutual

/-- Decompress from the start of a block on. -/
def blocks (bytes : ByteArray) (position : Nat) (output : ByteArray) : Inflated :=
  if 8 * bytes.size < position + 3 then ⟨output, .cut⟩
  else
    match number? bytes 1 position, number? bytes 2 (position + 1) with
    | some last, some kind =>
        if kind = 0 then
          let start := (position + 10) / 8
          match storedSize bytes start with
          | .error ending => ⟨output, ending⟩
          | .ok size =>
              let stop := start + 4 + size
              let output := output ++ bytes.extract (start + 4) stop
              if bytes.size < stop then ⟨output, .cut⟩
              else if last = 1 then finished bytes (8 * stop) output
              else blocks bytes (8 * stop) output
        else if kind = 1 then symbols bytes fixedCodes (last = 1) 0 (position + 3) output
        else if kind = 2 then
          match describedCodes bytes (position + 3) with
          | .error ending => ⟨output, ending⟩
          | .ok (codes, used) => symbols bytes codes (last = 1) 0 (position + 3 + used) output
        else ⟨output, .damaged⟩
    | _, _ => ⟨output, .cut⟩
termination_by 8 * bytes.size - position
decreasing_by
  all_goals omega

/-- Decompress the rest of a block and the blocks after it.  After the first literal of
a pair, `room` is the number of bits that the word of the second may have. -/
def symbols (bytes : ByteArray) (codes : Codes) (last : Bool) (room position : Nat)
    (output : ByteArray) : Inflated :=
  if 8 * bytes.size < position + 1 then ⟨output, .cut⟩
  else
    match codes.literals.find bytes position with
    | .cut => ⟨output, .cut⟩
    | .noWord => ⟨output, .damaged⟩
    | .symbol value more =>
        let next := position + more + 1
        if value < 256 then
          let bits := more + 1
          let isSecond := 2 ≤ bits && bits ≤ room
          if !isSecond && isHalfPair bytes codes bits position then ⟨output, .cut⟩
          else
            symbols bytes codes last (if isSecond then 0 else pairBits - bits) next
              (output.push (UInt8.ofNat value))
        else if value = 256 then
          if last then finished bytes next output else blocks bytes next output
        else
          match readCopy bytes codes value next with
          | .error ending => ⟨output, ending⟩
          | .ok copy =>
              if output.size < copy.distance then ⟨output, .damaged⟩
              else
                symbols bytes codes last 0 (next + copy.bits)
                  (copyBack copy.distance copy.length output)
termination_by 8 * bytes.size - position
decreasing_by
  all_goals omega

end

end Inflate

/-- Decompress a stream: the method in the low half of the first byte is
deflate, with a window of at most 32 KiB and no preset dictionary, and the two
header bytes form a multiple of 31.  The checksum at the end must be there, but is
not compared. -/
def inflate (bytes : ByteArray) : Inflated :=
  match bytes[0]?, bytes[1]? with
  | some method, some flags =>
      if method.toNat % 16 ≠ 8 ∨ 7 < method.toNat / 16 ∨ flags.toNat / 32 % 2 = 1 ∨
          (256 * method.toNat + flags.toNat) % 31 ≠ 0 then
        ⟨.empty, .damaged⟩
      else Inflate.blocks bytes 16 .empty
  | _, _ => ⟨.empty, .cut⟩

end GuiExplorer.Image
