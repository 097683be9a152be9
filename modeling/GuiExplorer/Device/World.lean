import GuiExplorer.Coverage.Statement
import GuiExplorer.Device.Worker
import GuiExplorer.Image.Capture
import GuiExplorer.Store.File

/-!
# The world outside

Everything outside the explorer: the bridge to the device, the worker that runs
the daemon, the connection to the daemon, the clock, the log of executed
statements, the decoder of screen captures and the file system.  A world is a set
of operations on a state of any type; an operation may answer anything and change
the state in any way.
-/

namespace GuiExplorer

/-- The operations on a device.  At most one worker and one connection are in use
at a time; a new connection takes the place of the one before. -/
structure Device (σ : Type) where
  /-- Forward a port of the host to the same port of the device. -/
  forward : (serial : String) → (port : UInt16) → σ → Except CallError Unit × σ
  /-- Drop what the log of the device holds. -/
  clearLog : (serial : String) → σ → Except CallError Unit × σ
  /-- The lines in the log that carry the tag. -/
  readLog : (serial tag : String) → σ → Except CallError (List String) × σ
  /-- How many more readings of the log, with a pause after each of them, begin
  within a time limit after the first one. -/
  patience : (limit pause : Duration) → σ → Nat
  /-- Start the worker that runs the daemon. -/
  launch : (serial : String) → (port : UInt16) → (runner : String) → σ → σ
  /-- How the worker ended, if it has. -/
  ending : σ → Option WorkerEnd
  /-- Ask the worker to stop. -/
  requestStop : σ → σ
  /-- Wait until the worker ends. -/
  awaitEnd : σ → WorkerEnd × σ
  /-- Wait until the worker ends or the limit passes. -/
  awaitEndFor : (limit : Duration) → σ → Option WorkerEnd × σ
  /-- Open a connection to the daemon. -/
  connect : (host : String) → (port : UInt16) → σ → Except Wire.FrameError Unit × σ
  /-- Send bytes on the open connection.  The answer is all that arrives on it from
  now on until the deadline. -/
  send : ByteArray → σ → Except Wire.FrameError (List Wire.Chunk) × σ

/-- Wait for the worker, with or without a limit. -/
def Device.wait (device : Device σ) (limit : Option Duration) (state : σ) : Waited × σ :=
  match limit with
  | none =>
      let (ending, state) := device.awaitEnd state
      (.ended ending, state)
  | some limit =>
      match device.awaitEndFor limit state with
      | (some ending, state) => (.ended ending, state)
      | (none, state) => (.expired limit, state)

/-- The operations on everything outside. -/
structure World (σ : Type) extends Device σ where
  /-- Time since the run began. -/
  elapsed : σ → Duration
  /-- The present time as a text. -/
  timestamp : σ → String
  /-- Decode a screen capture. -/
  decode : Decoder
  /-- The executed statements that were logged. -/
  executed : σ → List StatementRecord × σ
  /-- Make a folder unless it is there. -/
  makeFolder : (folder : String) → σ → Except FileError Unit × σ
  /-- Write a file in a folder. -/
  write : (folder name text : String) → σ → Except FileError Unit × σ

end GuiExplorer
