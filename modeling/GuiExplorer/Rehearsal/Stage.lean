import GuiExplorer.Device.Config
import GuiExplorer.Device.World
import GuiExplorer.Image.Decode
import GuiExplorer.Rehearsal.Actor
import GuiExplorer.Rehearsal.Files
import GuiExplorer.Rehearsal.Peer

/-!
# The rehearsed world

A world that follows a script for the bridge, the worker, the daemon and the
log of executed statements.  No time passes in it, except that a wait for more
log lines lasts until the script has no more to give.
-/

namespace GuiExplorer

/-- The state of a rehearsed world. -/
structure Stage where
  forward : Except CallError Unit
  clearLog : Except CallError Unit
  /-- The readings of the log to come; the last one repeats. -/
  log : List (Except CallError (List String))
  /-- How often the log was read. -/
  readings : Nat
  worker : Actor
  peer : Peer
  /-- The executed statements to come, for each time they are asked for. -/
  executed : List (List StatementRecord)
  files : Files

namespace Stage

/-- An error in a script. -/
def bridgeError? (value : Json) : Option BridgeError :=
  match value.given? "fail", value.given? "not_found", value.given? "exited" with
  | some reason, _, _ => some (.commandFailed reason.text)
  | none, some serial, _ => some (.deviceNotFound serial.text)
  | none, none, some status => some (.daemonExited status.text)
  | none, none, none => none

/-- Success, or an error. -/
def outcomeOfJson (value : Json) : Except CallError Unit :=
  match bridgeError? value with
  | some error => .error (.failed error)
  | none => .ok ()

/-- A reading of the log: lines, or an error. -/
def readingOfJson (value : Json) : Except CallError (List String) :=
  match bridgeError? value with
  | some error => .error (.failed error)
  | none => .ok (value.items.map Json.text)

/-- The world that a script describes. -/
def ofJson (value : Json) : Stage :=
  let bridge := value.member "adb"
  let log := match bridge.given? "logcat" with
    | some readings => readings.items.map readingOfJson
    | none => [.ok [serverStartMessage]]
  ⟨outcomeOfJson (bridge.member "forward"), outcomeOfJson (bridge.member "clear"), log, 0,
    .ofName (bridge.textAt "daemon"),
    .ofJson (.ofJson value) (value.member "daemon") (!value.boolAt "no_server"), [], .empty⟩

/-- The setup of a client of the rehearsed daemon. -/
def configOfJson (value : Json) : DaemonConfig :=
  let initial : DaemonConfig := {}
  { initial with
    serial := value.textAt "serial" "emulator-5554"
    port := Peer.defaultPort
    runner := value.textAt "runner" initial.runner
    socketTimeout := .ofMillis (value.natAt "socket_timeout_ms" 5000)
    startTimeout := .ofMillis (value.natAt "start_timeout_ms" 5000)
    closeTimeout := (value.given? "close_timeout_ms").map fun limit => .ofMillis limit.nat }

/-- Read the log. -/
def readLog (stage : Stage) : Except CallError (List String) × Stage :=
  let stage := { stage with readings := stage.readings + 1 }
  match stage.log with
  | [] => (.ok [], stage)
  | [last] => (last, stage)
  | next :: later => (next, { stage with log := later })

/-- The executed statements. -/
def nextExecuted (stage : Stage) : List StatementRecord × Stage :=
  match stage.executed with
  | [] => ([], stage)
  | next :: later => (next, { stage with executed := later })

/-- Let the daemon act. -/
def withPeer (stage : Stage) (act : Peer → α × Peer) : α × Stage :=
  let (result, peer) := act stage.peer
  (result, { stage with peer := peer })

/-- Change the files. -/
def withFiles (stage : Stage) (act : Files → α × Files) : α × Stage :=
  let (result, files) := act stage.files
  (result, { stage with files := files })

/-- The operations of the rehearsed world. -/
def world : World Stage where
  forward _ _ stage := (stage.forward, stage)
  clearLog _ stage := (stage.clearLog, stage)
  readLog _ _ stage := stage.readLog
  patience limit _ stage := if limit.nanoseconds = 0 then 0 else stage.log.length
  launch _ _ _ stage := { stage with worker := stage.worker.start }
  ending stage := stage.worker.ending
  requestStop stage := { stage with worker := stage.worker.requestStop }
  awaitEnd stage := (stage.worker.awaitEnd, stage)
  awaitEndFor _ stage := (stage.worker.ending, stage)
  connect _ port stage := stage.withPeer (Peer.connect port)
  send frame stage := stage.withPeer (Peer.send frame)
  elapsed _ := ⟨0⟩
  timestamp _ := "<time>"
  decode := Capture.ofFile
  executed stage := stage.nextExecuted
  makeFolder folder stage := stage.withFiles (Files.makeFolder folder)
  write folder name text stage := stage.withFiles (Files.write folder name text)

end Stage

end GuiExplorer
