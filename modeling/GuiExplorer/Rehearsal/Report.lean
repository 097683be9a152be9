import GuiExplorer.Coverage.Monitor
import GuiExplorer.Device.Client
import GuiExplorer.Exploration.Error
import GuiExplorer.Wire.Json

/-!
# Reports

What a rehearsal found, as JSON.  An error is reported by its kind and, where
its wording is fixed, by its message.
-/

namespace GuiExplorer.Report

def nat (value : Nat) : Json :=
  .int value

def list (write : α → Json) (values : List α) : Json :=
  .array (values.map write)

/-- A double by its bits. -/
def float (value : Float) : Json :=
  let bits := value.toBits.toNat
  .str (Text.hexText ((List.range 8).map fun i => UInt8.ofNat (bits >>> (8 * (7 - i)))))

def uuid (id : Uuid) : Json :=
  id.toJson

def screen (screen : Screen) : Json :=
  .record [
    ("uid", uuid screen.uid),
    ("widgets", list (fun widget => .array [uuid widget.uid, uuid widget.configId])
      screen.widgets)]

def action : Action → Json
  | .onWidget widget gesture =>
      let action := Action.onWidget widget gesture
      .record [
        ("type", .str action.kind), ("gesture", gesture.toJson), ("uid", uuid widget.uid),
        ("config_id", uuid widget.configId), ("display", .str action.text)]
  | action => .str action.kind

def actedCount (counter : ActedCount) : Json :=
  .array [uuid counter.screen, uuid counter.widget, nat counter.count.toNat]

def model (snapshot : StoreSnapshot) : Json :=
  .record [
    ("observations", list uuid snapshot.observations), ("screens", list screen snapshot.screens),
    ("acted", list actedCount snapshot.acted)]

/-- Which steps of a trace were replayed. -/
def explored (trace : PlaybackTrace) : Json :=
  list (fun entry => nat (if entry.explored then 1 else 0)) trace.entries

def trace (trace : PlaybackTrace) : Json :=
  .record [("cursor", nat trace.cursor), ("explored", explored trace)]

/-- An error whose wording is not reported. -/
def kind (name : String) : Json :=
  .record [("error", .str name)]

/-- An error with its wording. -/
def error (name message : String) : Json :=
  .record [("error", .str name), ("message", .str message)]

def storeError (failure : StoreError) : Json :=
  match failure with
  | .io _ => error "IoError" failure.message
  | .parse => kind "ParseError"

def strategyError (failure : StrategyError) : Json :=
  match failure with
  | .skipLimitExceeded _ => error "SkipLimitExceeded" failure.message
  | .noCandidate _ _ => error "NoCandidate" failure.message

def engineError (failure : EngineError) : Json :=
  match failure with
  | .noApplicableStrategy _ => error "NoApplicableStrategy" failure.message
  | .terminated => error "Terminated" failure.message
  | .emptyPool => error "EmptyPool" failure.message
  | .strategy _ _ => error "Strategy" failure.message

def socketError : Wire.SocketError → String
  | .unexpectedEof => "UnexpectedEof"
  | .connectionReset => "ConnectionReset"
  | .connectionRefused => "ConnectionRefused"
  | .brokenPipe => "BrokenPipe"
  | .writeZero => "WriteZero"
  | .other kind _ => kind

def bridgeError (failure : BridgeError) : Json :=
  match failure with
  | .commandFailed _ => error "Adb.CommandFailed" failure.message
  | .deviceNotFound _ => error "Adb.DeviceNotFound" failure.message
  | .daemonExited _ => error "Adb.DaemonExited" failure.message

def daemonError (failure : DaemonError) : Json :=
  match failure with
  | .socket cause => .record [("error", .str "Io"), ("io", .str (socketError cause))]
  | .codec _ => error "Codec" failure.message
  | .frameTooLarge _ => error "FrameTooLarge" failure.message
  | .truncated _ _ => error "Truncated" failure.message
  | .timeout _ => error "Timeout" failure.message
  | .startup _ => error "Startup" failure.message
  | .invalidState _ _ => error "InvalidState" failure.message
  | .join .panicked => kind "Join"
  | .join (.callPanicked _) => kind "Join"
  | .join _ => error "Join" failure.message
  | .remote _ => error "Remote" failure.message
  | .unexpectedResponse _ => error "UnexpectedResponse" failure.message
  | .bridge cause => bridgeError cause

def explorationError (failure : ExplorationError) : Json :=
  let caused (name : String) (source : Json) : Json :=
    .record [("error", .str name), ("source", source)]
  match failure with
  | .device cause => caused "Daemon" (daemonError cause)
  | .engine cause => caused "Engine" (engineError cause)
  | .store cause => caused "Store" (storeError cause)
  | .observation => kind "Observation"

/-- The calls that a client made on the bridge; of the readings of the log only
the first. -/
def calls (journal : List ClientEvent) : Json :=
  let shown : Bool × List Json → ClientEvent → Bool × List Json
    | (read, calls), .forwarded serial _ =>
        (read, .array [.str "forward", .str serial, .str "<port>"] :: calls)
    | (read, calls), .cleared serial => (read, .array [.str "clear", .str serial] :: calls)
    | (false, calls), .readLog serial tag =>
        (true, .array [.str "logcat", .str serial, .str tag] :: calls)
    | state, _ => state
  .array (journal.foldl shown (false, [])).2.reverse

/-- A value, or an error. -/
def outcome (ofError : ε → Json) (ofValue : α → Json) : Except ε α → Json
  | .ok value => ofValue value
  | .error failure => ofError failure

/-- Success without a value, or an error. -/
def done (ofError : ε → Json) (result : Except ε Unit) : Json :=
  outcome ofError (fun _ => .str "ok") result

/-- An error of the connection. -/
def frameError (failure : Wire.FrameError) : Json :=
  daemonError (DaemonError.ofFrame ⟨0⟩ failure)

/-- A decoded message. -/
def decoded (ofMessage : α → Json) (result : Wire.Decoded α) : Json :=
  outcome (fun failure => daemonError (.codec failure)) (fun (message, _) => ofMessage message)
    result

end GuiExplorer.Report
