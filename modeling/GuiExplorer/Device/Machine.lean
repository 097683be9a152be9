import GuiExplorer.Coverage.Statement
import GuiExplorer.Device.Bridge
import GuiExplorer.Device.World

/-!
# The host machine

What a host offers: it runs programs, keeps one process running in the
background, opens connections, tells the time, decodes images and holds files.  The world that
an explorer needs is built from that and the command-line bridge.
-/

namespace GuiExplorer

/-- The operations of a host.  At most one background process and one connection are
in use at a time. -/
structure Machine (σ : Type) where
  /-- Run a program to its end. -/
  run : (program : String) → Runner σ
  /-- Start a program in the background, under supervision. -/
  launch : (program : String) → (arguments : List String) → σ → σ
  /-- How the supervision of the background process ended, if it has. -/
  ending : σ → Option WorkerEnd
  /-- Ask for the background process to be stopped. -/
  requestStop : σ → σ
  awaitEnd : σ → WorkerEnd × σ
  awaitEndFor : (limit : Duration) → σ → Option WorkerEnd × σ
  /-- How many more times something that is done with a pause in between is done
  within a limit after the first time. -/
  patience : (limit pause : Duration) → σ → Nat
  connect : (host : String) → (port : UInt16) → σ → Except Wire.FrameError Unit × σ
  send : ByteArray → σ → Except Wire.FrameError (List Wire.Chunk) × σ
  elapsed : σ → Duration
  timestamp : σ → String
  decode : Decoder
  makeFolder : (folder : String) → σ → Except FileError Unit × σ
  write : (folder name text : String) → σ → Except FileError Unit × σ

namespace Machine

/-- The executed statements that the log of a device holds.  A log that cannot be
read holds none. -/
def executed (machine : Machine σ) (adb serial tag : String) (state : σ) :
    List StatementRecord × σ :=
  match Bridge.readLog (machine.run adb) serial tag state with
  | (.ok lines, state) => (lines.filterMap StatementRecord.ofLine?, state)
  | (.error _, state) => ([], state)

/-- A call of the bridge that did not break down. -/
def returned (answer : Except BridgeError α × σ) : Except CallError α × σ :=
  (answer.1.mapError .failed, answer.2)

/-- The world in which the device with the serial is reached through the program
`adb` and logs executed statements under the tag. -/
def world (machine : Machine σ) (adb serial tag : String) : World σ where
  forward serial port state := returned (Bridge.forward (machine.run adb) serial port state)
  clearLog serial state := returned (Bridge.clearLog (machine.run adb) serial state)
  readLog serial tag state := returned (Bridge.readLog (machine.run adb) serial tag state)
  patience := machine.patience
  launch serial port runner :=
    machine.launch adb (Bridge.onDevice serial (Bridge.launchArguments port runner))
  ending := machine.ending
  requestStop := machine.requestStop
  awaitEnd := machine.awaitEnd
  awaitEndFor := machine.awaitEndFor
  connect := machine.connect
  send := machine.send
  elapsed := machine.elapsed
  timestamp := machine.timestamp
  decode := machine.decode
  executed := machine.executed adb serial tag
  makeFolder := machine.makeFolder
  write := machine.write

end Machine

end GuiExplorer
