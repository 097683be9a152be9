import GuiExplorer.Wire.Codec

/-!
# Frames

Every message travels as one frame: the length of the payload in four bytes,
most significant first, and the payload.  A stream hands out its bytes in
chunks whose borders mean nothing, so a reader goes on until it has as many
bytes as it asked for.
-/

namespace GuiExplorer.Wire

/-- Largest payload that is sent or accepted. -/
def maxFrameLength : Nat :=
  64 * 1024 * 1024

/-- Failures of a socket. -/
inductive SocketError where
  | unexpectedEof
  | connectionReset
  | connectionRefused
  | brokenPipe
  | writeZero
  /-- Any other failure, of a kind and with a wording of its own. -/
  | other (kind message : String)
deriving DecidableEq, Repr

/-- The wording of a socket failure. -/
def SocketError.message : SocketError → String
  | .unexpectedEof => "unexpected end of file"
  | .connectionReset => "Connection reset by peer (os error 104)"
  | .connectionRefused => "Connection refused (os error 111)"
  | .brokenPipe => "Broken pipe (os error 32)"
  | .writeZero => "write zero"
  | .other _ message => message

/-- Why a frame could not be read or written. -/
inductive FrameError where
  | socket (error : SocketError)
  | tooLarge (size : Nat)
  | truncated (expected received : Nat)
  /-- Nothing more came before the deadline of the reader. -/
  | stalled
deriving DecidableEq, Repr

/-- What the next read of a stream meets. -/
inductive Chunk where
  /-- Some bytes; no bytes at all mean the end of the stream, for that read. -/
  | data (bytes : ByteArray)
  | failure (error : SocketError)
  /-- The read does not return before the deadline. -/
  | stall
deriving DecidableEq

namespace Chunk

/-- The bytes of a chunk. -/
def size : Chunk → Nat
  | .data bytes => bytes.size
  | _ => 0

/-- The bytes of all chunks together. -/
def bytesOf : List Chunk → ByteArray
  | [] => .empty
  | .data bytes :: rest => bytes ++ bytesOf rest
  | _ :: rest => bytesOf rest

end Chunk

/-- How an attempt to read a number of bytes ends. -/
inductive Fill where
  | complete (bytes : ByteArray)
  /-- The stream ended after these bytes. -/
  | ended (bytes : ByteArray)
  | failed (error : SocketError)
  | stalled
deriving DecidableEq

/-- Read `missing` more bytes after the bytes `before`.  A stream without
chunks has ended. -/
def fill (missing : Nat) (before : ByteArray) (stream : List Chunk) : Fill × List Chunk :=
  if missing = 0 then (.complete before, stream)
  else
    match stream with
    | [] => (.ended before, [])
    | .data bytes :: rest =>
        if bytes.size = 0 then (.ended before, rest)
        else if missing < bytes.size then
          (.complete (before ++ bytes.extract 0 missing),
            .data (bytes.extract missing bytes.size) :: rest)
        else fill (missing - bytes.size) (before ++ bytes) rest
    | .failure error :: rest => (.failed error, rest)
    | .stall :: rest => (.stalled, .stall :: rest)

/-- The length field of a frame. -/
def frameHeader (size : Nat) : ByteArray :=
  ⟨(littleEndian 4 size).reverse.toArray⟩

/-- The payload length that a length field announces. -/
def announcedLength (header : ByteArray) : Nat :=
  ofLittleEndian header.data.toList.reverse

/-- One frame with the payload. -/
def writeFrame (payload : ByteArray) : Except FrameError ByteArray :=
  if payload.size ≤ maxFrameLength then .ok (frameHeader payload.size ++ payload)
  else .error (.tooLarge payload.size)

/-- Read the payload of one frame. -/
def readFrame (stream : List Chunk) : Except FrameError ByteArray × List Chunk :=
  match fill 4 .empty stream with
  | (.ended _, rest) => (.error (.socket .unexpectedEof), rest)
  | (.failed error, rest) => (.error (.socket error), rest)
  | (.stalled, rest) => (.error .stalled, rest)
  | (.complete header, rest) =>
      let length := announcedLength header
      if maxFrameLength < length then (.error (.tooLarge length), rest)
      else
        match fill length .empty rest with
        | (.complete payload, rest) => (.ok payload, rest)
        | (.ended received, rest) => (.error (.truncated length received.size), rest)
        | (.failed error, rest) => (.error (.socket error), rest)
        | (.stalled, rest) => (.error .stalled, rest)

/-- Where frames are written to: a receiver that may stop taking bytes. -/
structure Sink where
  written : ByteArray
  /-- How many more bytes are taken; `none` for any number. -/
  room : Option Nat
  /-- What a write meets when no more bytes are taken. -/
  refusal : SocketError

/-- Write all bytes, or as many as are taken. -/
def Sink.write (sink : Sink) (bytes : ByteArray) : Except SocketError Unit × Sink :=
  match sink.room with
  | none => (.ok (), { sink with written := sink.written ++ bytes })
  | some room =>
      let taken := bytes.extract 0 (min room bytes.size)
      let sink := { sink with written := sink.written ++ taken, room := some (room - taken.size) }
      (if bytes.size ≤ room then .ok () else .error sink.refusal, sink)

/-- Write a payload as one frame. -/
def Sink.writeFrame (sink : Sink) (payload : ByteArray) : Except FrameError Unit × Sink :=
  match Wire.writeFrame payload with
  | .error error => (.error error, sink)
  | .ok frame =>
      match sink.write frame with
      | (.ok _, sink) => (.ok (), sink)
      | (.error error, sink) => (.error (.socket error), sink)

end GuiExplorer.Wire
