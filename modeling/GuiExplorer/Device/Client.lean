import GuiExplorer.Device.Config
import GuiExplorer.Device.Startup
import GuiExplorer.Device.World
import GuiExplorer.Wire.Message

/-!
# Daemon client

A client owns the daemon's life from start to close and the connection to it.
Commands are sent one after another, each after the answer to the one before
was read or had failed.  After a failure the connection is given up, so that an
answer that comes late is never taken for the answer to another command.

The journal of a client tells what it has done, oldest first.
-/

namespace GuiExplorer

/-- What a client did. -/
inductive ClientEvent where
  | forwarded (serial : String) (port : UInt16)
  | cleared (serial : String)
  | readLog (serial tag : String)
  | launched (serial : String) (port : UInt16) (runner : String)
  /-- The worker was asked to stop. -/
  | stopRequested
  /-- A wait for the worker was over. -/
  | waited (outcome : Waited)
  | connected
  /-- The exchange of a command for a response began. -/
  | asked (command : Command)
  | answered (response : Response)
  | failed (error : DaemonError)
deriving DecidableEq

/-- An open connection, with what was received on it but not read yet. -/
structure Connection where
  unread : List Wire.Chunk
deriving DecidableEq

namespace Connection

/-- A connection on which nothing was received yet. -/
def fresh : Connection :=
  ⟨[]⟩

/-- Read the payload of one frame from what was left unread and what arrived
since.  A deadline that is not reached is none for the next read. -/
def receive (connection : Connection) (arrived : List Wire.Chunk) :
    Except Wire.FrameError ByteArray × Connection :=
  let (result, rest) := Wire.readFrame (connection.unread ++ arrived)
  (result, ⟨rest.filter (· ≠ .stall)⟩)

end Connection

/-- A client and the state of the world it acts on. -/
structure Client (σ : Type) where
  config : DaemonConfig
  phase : Phase
  /-- The worker, from its start until it was waited for. -/
  worker : Option WorkerHandle
  connection : Option Connection
  journal : List ClientEvent
  outside : σ

namespace Client

variable {σ : Type}

/-- A client that has not done anything yet. -/
def ofConfig (config : DaemonConfig) (outside : σ) : Client σ :=
  ⟨config, .notStarted, none, none, [], outside⟩

/-- Note an event in the journal. -/
def note (client : Client σ) (event : ClientEvent) : Client σ :=
  { client with journal := client.journal ++ [event] }

/-- Go on with another state of the world. -/
def outsideTo (client : Client σ) (outside : σ) : Client σ :=
  { client with outside := outside }

/-- Go on in another phase. -/
def enter (client : Client σ) (phase : Phase) : Client σ :=
  { client with phase := phase }

/-- Whether the worker is running. -/
def isAlive (device : Device σ) (client : Client σ) : Bool :=
  client.worker.any (·.isAlive (device.ending client.outside))

/-- Forward the port of the daemon. -/
def forwardPort (device : Device σ) (client : Client σ) : Except DaemonError Unit × Client σ :=
  let (result, outside) := device.forward client.config.serial client.config.port client.outside
  (result.mapError .ofCall,
    (client.note (.forwarded client.config.serial client.config.port)).outsideTo outside)

/-- Drop what the log of the device holds. -/
def clearLog (device : Device σ) (client : Client σ) : Except DaemonError Unit × Client σ :=
  let (result, outside) := device.clearLog client.config.serial client.outside
  (result.mapError .ofCall, (client.note (.cleared client.config.serial)).outsideTo outside)

/-- The lines in the log that carry the tag. -/
def readLog (device : Device σ) (tag : String) (client : Client σ) :
    Except CallError (List String) × Client σ :=
  let (result, outside) := device.readLog client.config.serial tag client.outside
  (result, (client.note (.readLog client.config.serial tag)).outsideTo outside)

/-- Start the worker. -/
def spawn (device : Device σ) (client : Client σ) : Client σ :=
  let config := client.config
  let outside := device.launch config.serial config.port config.runner client.outside
  { (client.note (.launched config.serial config.port config.runner)).outsideTo outside with
    worker := some .spawned }

/-- Wait for the lines that confirm the start. -/
def awaitMessages (device : Device σ) (client : Client σ) (wait : Startup.Wait) :
    Except DaemonError (List String) × Client σ :=
  Startup.await wait (readLog device wait.tag)
    (device.patience wait.timeout client.config.startDelay client.outside) client

/-- Launch the daemon and wait until its start is confirmed. -/
def launch (device : Device σ) (client : Client σ) : Except DaemonError Unit × Client σ :=
  match client.forwardPort device with
  | (.error error, client) => (.error error, client)
  | (.ok _, client) =>
    match client.clearLog device with
    | (.error error, client) => (.error error, client)
    | (.ok _, client) =>
      match (client.spawn device).awaitMessages device
          ⟨serverStartTag, 1, client.config.startTimeout⟩ with
      | (.error error, client) => (.error error, client)
      | (.ok messages, client) =>
        match Startup.validate messages with
        | .error error => (.error (.startup error), client)
        | .ok _ =>
            if client.isAlive device then (.ok (), client)
            else (.error (.startup .notRunning), client)

/-- Ask the worker to stop and wait for it.  The client gives up its handle, which
is returned. -/
def stopWorker (device : Device σ) (client : Client σ) (handle : WorkerHandle) :
    Except DaemonError Unit × WorkerHandle × Client σ :=
  let client := { client.note .stopRequested with worker := none }
  let (waited, outside) :=
    device.wait client.config.closeTimeout (device.requestStop client.outside)
  let (result, handle) := handle.requestStop.join waited
  (result, handle, (client.note (.waited waited)).outsideTo outside)

/-- Whether the client is in the phase that a call needs. -/
def expect (client : Client σ) (expected : Phase) : Except DaemonError Unit :=
  if client.phase = expected then .ok () else .error (.invalidState client.phase expected)

/-- Launch the daemon.  If that fails, the worker is stopped and the client is
closed; what becomes of the worker then is not told. -/
def start (device : Device σ) (client : Client σ) : Except DaemonError Unit × Client σ :=
  match client.expect .notStarted with
  | .error error => (.error error, client)
  | .ok _ =>
    match (client.enter .starting).launch device with
    | (.ok _, client) => (.ok (), client.enter .ready)
    | (.error error, client) =>
      match client.worker with
      | none => (.error error, client.enter .closed)
      | some handle => (.error error, (client.stopWorker device handle).2.2.enter .closed)

/-- The connection that is open, or a new one. -/
def connection? (device : Device σ) (client : Client σ) :
    Except Wire.FrameError Connection × Client σ :=
  match client.connection with
  | some connection => (.ok connection, client)
  | none =>
      let (result, outside) := device.connect client.config.host client.config.port client.outside
      (result.map fun _ => .fresh, (client.note .connected).outsideTo outside)

/-- Send a frame on the open connection and read the frame that answers it. -/
def transfer (device : Device σ) (client : Client σ) (connection : Connection)
    (frame : ByteArray) : Except Wire.FrameError ByteArray × Client σ :=
  match device.send frame client.outside with
  | (.error error, outside) => (.error error, client.outsideTo outside)
  | (.ok arrived, outside) =>
      let (result, connection) := connection.receive arrived
      (result, { client.outsideTo outside with connection := some connection })

/-- Send a command and read the frame that answers it. -/
def roundTrip (device : Device σ) (client : Client σ) (command : Command) :
    Except Wire.FrameError ByteArray × Client σ :=
  match client.connection? device with
  | (.error error, client) => (.error error, client)
  | (.ok connection, client) =>
    match Wire.writeFrame (Wire.command.toBytes command) with
    | .error error => (.error error, client)
    | .ok frame => client.transfer device connection frame

/-- What the outcome of a round trip says. -/
def interpret (config : DaemonConfig) :
    Except Wire.FrameError ByteArray → Except DaemonError Response
  | .error error => .error (.ofFrame config.socketTimeout error)
  | .ok payload =>
      match Wire.response.ofBytes payload with
      | .ok (response, _) => .ok response
      | .error error => .error (.codec error)

/-- Exchange a command for its response.  After a failure the connection is given
up. -/
def exchange (device : Device σ) (client : Client σ) (command : Command) :
    Except DaemonError Response × Client σ :=
  let (received, client) := (client.note (.asked command)).roundTrip device command
  match interpret client.config received with
  | .ok response => (.ok response, client.note (.answered response))
  | .error error => (.error error, { client.note (.failed error) with connection := none })

/-- Exchange a command for its response while the daemon is ready. -/
def query (device : Device σ) (client : Client σ) (command : Command) :
    Except DaemonError Response × Client σ :=
  match client.expect .ready with
  | .error error => (.error error, client)
  | .ok _ => client.exchange device command

/-- Stop the daemon and wait for its worker.  Whether the daemon answers does not
matter. -/
def close (device : Device σ) (client : Client σ) : Except DaemonError Unit × Client σ :=
  match client.expect .ready with
  | .error error => (.error error, client)
  | .ok _ =>
    let client := ((client.enter .closing).exchange device .stopDaemon).2
    let client := { client with connection := none }
    match client.worker with
    | none => (.error (.join .noTask), client)
    | some handle =>
      match client.stopWorker device handle with
      | (.error error, _, client) => (.error error, client.enter .closed)
      | (.ok _, handle, client) =>
          if handle.isAlive (device.ending client.outside) then
            (.error (.join .stillAlive), client.enter .closed)
          else (.ok (), client.enter .closed)

end Client

end GuiExplorer
