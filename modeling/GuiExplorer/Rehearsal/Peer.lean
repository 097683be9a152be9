import GuiExplorer.Rehearsal.Scenario
import GuiExplorer.Wire.Frame

/-!
# A rehearsed daemon

A daemon that follows a script: for each command it receives the script says how
it replies.  Past the end of the script a request for a snapshot gets the next
of a list of snapshots, of which the last one repeats, and any other command is
acknowledged.
-/

namespace GuiExplorer

/-- How a rehearsed daemon replies to a command. -/
inductive Reply where
  | usual
  /-- A response, sent in pieces of the given size if there is one. -/
  | respond (response : Response) (piece : Option Nat)
  /-- Some bytes, after which the connection may be closed. -/
  | raw (bytes : ByteArray) (closes : Bool)
  /-- The connection is closed without an answer. -/
  | close
  /-- No answer; the connection stays open. -/
  | silent

/-- A rehearsed daemon. -/
structure Peer where
  /-- The port it listens on, if it does. -/
  port : Option UInt16
  /-- The snapshots to come. -/
  snapshots : List GuiSnapshot
  /-- The replies to come. -/
  replies : List Reply
  /-- The commands received so far, oldest first. -/
  received : List Command
  /-- Whether the present connection is open. -/
  isOpen : Bool

namespace Peer

/-- The port that rehearsed daemons listen on. -/
def defaultPort : UInt16 :=
  47113

/-- A reply in a script. -/
def replyOfJson (scenario : Scenario) (value : Json) : Reply :=
  match value.given? "response", value.given? "raw" with
  | some response, _ =>
      .respond (scenario.response response) ((value.given? "split").map Json.nat)
  | none, some bytes =>
      .raw ⟨(Text.ofHexText bytes.text).toArray⟩ (value.boolAt "close")
  | none, none =>
      match value.text with
      | "close" => .close
      | "silent" => .silent
      | _ => .usual

/-- The daemon that a script describes. -/
def ofJson (scenario : Scenario) (value : Json) (listens : Bool := true) : Peer :=
  ⟨if listens then some defaultPort else none,
    (value.itemsAt "snapshots").map scenario.snapshot,
    (value.itemsAt "replies").map (replyOfJson scenario), [], false⟩

/-- Accept a connection. -/
def connect (port : UInt16) (peer : Peer) : Except Wire.FrameError Unit × Peer :=
  if peer.port = some port then (.ok (), { peer with isOpen := true })
  else (.error (.socket .connectionRefused), peer)

/-- The next snapshot. -/
def nextSnapshot (peer : Peer) : GuiSnapshot × Peer :=
  match peer.snapshots with
  | [] => (default, peer)
  | [last] => (last, peer)
  | next :: later => (next, { peer with snapshots := later })

/-- Cut bytes into pieces. -/
def pieces (size : Nat) (bytes : ByteArray) : List Wire.Chunk :=
  (List.range ((bytes.size + size - 1) / size)).map fun i =>
    .data (bytes.extract (i * size) ((i + 1) * size))

/-- What sending a response makes arrive. -/
def arrival (response : Response) (piece : Option Nat) : List Wire.Chunk :=
  match Wire.writeFrame (Wire.response.toBytes response) with
  | .ok frame => pieces (piece.getD frame.size) frame ++ [.stall]
  | .error _ => [.stall]

/-- Reply as usual. -/
def replyUsually (command : Command) (peer : Peer) : List Wire.Chunk × Peer :=
  if command = .fetchGuiState then
    let (snapshot, peer) := peer.nextSnapshot
    (arrival (.guiState snapshot) none, peer)
  else (arrival .ack none, peer)

/-- What a reply makes arrive. -/
def carryOut (reply : Reply) (command : Command) (peer : Peer) : List Wire.Chunk × Peer :=
  match reply with
  | .usual => peer.replyUsually command
  | .respond response piece => (arrival response piece, peer)
  | .raw bytes closes =>
      (pieces bytes.size bytes ++ (if closes then [] else [.stall]),
        { peer with isOpen := !closes })
  | .close => ([], { peer with isOpen := false })
  | .silent => ([.stall], peer)

/-- Receive a command. -/
def receive (command : Command) (peer : Peer) : List Wire.Chunk × Peer :=
  let peer := { peer with received := peer.received ++ [command] }
  match peer.replies with
  | [] => peer.replyUsually command
  | reply :: later => carryOut reply command { peer with replies := later }

/-- Receive bytes on the present connection, which hold one frame. -/
def send (frame : ByteArray) (peer : Peer) : Except Wire.FrameError (List Wire.Chunk) × Peer :=
  if peer.isOpen then
    match Wire.readFrame [.data frame] with
    | (.error _, _) => (.ok [.stall], peer)
    | (.ok payload, _) =>
        match Wire.command.ofBytes payload with
        | .error _ => (.ok [.stall], peer)
        | .ok (command, _) =>
            let (arrived, peer) := peer.receive command
            (.ok arrived, peer)
  else (.error (.socket .brokenPipe), peer)

end Peer

end GuiExplorer
