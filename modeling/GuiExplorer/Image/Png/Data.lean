import GuiExplorer.Image.Inflate
import GuiExplorer.Image.Png.Preamble

/-!
# Image data of a PNG file

The compressed rows are the contents of a sequence of data chunks.  In the frames of
an animation a number stands before them: the chunks are counted on from the
description of the frame.
-/

namespace GuiExplorer.Image.Png

/-- How the sequence of data chunks ends. -/
inductive DataEnd where
  /-- Another chunk follows. -/
  | closed
  /-- The file ends. -/
  | cut
  /-- A data chunk does not match its check or has the wrong number. -/
  | damaged
deriving DecidableEq, Repr

/-- Bytes before the compressed data in a data chunk of the name. -/
def numberSize (name : List UInt8) : Nat :=
  if name = ascii "fdAT" then 4 else 0

/-- Whether the number at a position, if there has to be one, is the one expected. -/
def hasNumber (file : ByteArray) (name : List UInt8) (expected position : Nat) : Bool :=
  numberSize name = 0 || bigEndian (bytesAt file position 4) = expected

/-- Join the contents of the data chunks of a name from a position on. -/
def readData (file : ByteArray) (name : List UInt8) (expected position : Nat)
    (before : ByteArray) : ByteArray × DataEnd :=
  match _found : chunkAt? file position with
  | none => (before, .cut)
  | some chunk =>
      let start := position + 8 + numberSize name
      let stop := position + 8 + chunk.size
      if chunk.name ≠ name then (before, .closed)
      else if stop < start then (before, .damaged)
      else if file.size < start then (before, .cut)
      else if !hasNumber file name expected (position + 8) then (before, .damaged)
      else
        let before := before ++ file.extract start stop
        if !chunk.isWhole file then (before, .cut)
        else if chunk.isIntact file then
          readData file name (expected + 1) (position + 12 + chunk.size) before
        else (before, .damaged)
termination_by file.size - position
decreasing_by
  unfold chunkAt? at _found
  split at _found
  · contradiction
  · omega

/-- How far back a compressed stream may refer.  Bytes that it may still refer to are
not taken before the stream ends. -/
def window : Nat :=
  32768

/-- The rows, as far as they can be taken, from data that end in some way.  Data that
are closed are taken as a whole, even if the stream goes on. -/
def takenRows (stream : Inflated) (ending : DataEnd) : List UInt8 :=
  let bytes := stream.output.data.toList
  if stream.ending = .complete ∨ ending = .closed then bytes
  else bytes.take (bytes.length - window)

end GuiExplorer.Image.Png
