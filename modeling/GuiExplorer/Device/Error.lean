import GuiExplorer.Time.Duration
import GuiExplorer.Wire.Frame

/-!
# Errors of the device side

What can go wrong with the bridge to the device and with the daemon on it.
Every error is a cause; its wording is a function of the cause.
-/

namespace GuiExplorer

/-- Errors of the command-line bridge to a device. -/
inductive BridgeError where
  | commandFailed (reason : String)
  | deviceNotFound (serial : String)
  /-- The daemon process ended with the given exit status. -/
  | daemonExited (status : String)
deriving DecidableEq, Repr

/-- The wording of a bridge error. -/
def BridgeError.message : BridgeError → String
  | .commandFailed reason => "Command execution failed: " ++ reason
  | .deviceNotFound serial => "Device not found: " ++ serial
  | .daemonExited status => "Daemon process exited abnormally: " ++ status

/-- Why a call of the bridge has no result. -/
inductive CallError where
  | failed (error : BridgeError)
  /-- The call broke down instead of returning. -/
  | panicked (report : String)
deriving DecidableEq, Repr

/-- Lifecycle of a daemon client. -/
inductive Phase where
  | notStarted
  | starting
  | ready
  | closing
  | closed
deriving DecidableEq, Repr

def Phase.name : Phase → String
  | .notStarted => "NotStarted"
  | .starting => "Starting"
  | .ready => "Ready"
  | .closing => "Closing"
  | .closed => "Closed"

/-- Log tag under which the daemon announces that it is serving. -/
def serverStartTag : String :=
  "uiadaemon_server_start"

/-- Message the daemon logs once its server socket is open. -/
def serverStartMessage : String :=
  "UIAutomation daemon server started."

/-- Printed on some vendor builds where verbose logging is switched off.  It
comes with one more harmless line ahead of the start message. -/
def logSwitchNote : String :=
  "Note: log switch off, only log_main and log_events will have logs!"

/-- Why the start of the daemon was not confirmed. -/
inductive StartupError where
  /-- The deadline passed before enough lines were logged. -/
  | tooFewMessages (expected : Nat) (tag : String) (within : Duration) (found : Nat)
  | noMessage
  | wrongCount (expected : Nat) (messages : List String)
  | unconfirmed (messages : List String)
  /-- The daemon confirmed its start but has ended since. -/
  | notRunning
deriving DecidableEq, Repr

/-- The wording of a startup error. -/
def StartupError.message : StartupError → String
  | .tooFewMessages expected tag within found =>
      "expected " ++ toString expected ++ " message(s) with tag " ++ tag ++ " within " ++
        within.text ++ ", got " ++ toString found
  | .noMessage =>
      "no message with tag " ++ serverStartTag ++ " confirming the daemon server start"
  | .wrongCount expected messages =>
      "expected exactly " ++ toString expected ++
        " message(s) confirming that the daemon server started, got " ++
        toString messages.length ++ ":\n" ++ "\n".intercalate messages
  | .unconfirmed messages =>
      "last startup message does not contain \"" ++ serverStartMessage ++ "\":\n" ++
        "\n".intercalate messages
  | .notRunning => "daemon task is not running after confirming startup"

/-- Why waiting for the daemon task, or for a call of the bridge, failed. -/
inductive JoinError where
  | stillRunning (limit : Duration)
  /-- The task broke down instead of returning. -/
  | panicked
  | noTask
  | stillAlive
  /-- A call of the bridge broke down instead of returning. -/
  | callPanicked (report : String)
deriving DecidableEq, Repr

/-- The wording of a join error. -/
def JoinError.message : JoinError → String
  | .stillRunning limit => "daemon task still running after " ++ limit.text
  | .panicked => "daemon task panicked"
  | .noTask => "no daemon task to wait for"
  | .stillAlive => "daemon task still alive after join"
  | .callPanicked report => "adb worker failed: " ++ report

/-- Errors raised while starting, querying or stopping the daemon. -/
inductive DaemonError where
  | socket (error : Wire.SocketError)
  | codec (error : Wire.CodecError)
  | frameTooLarge (size : Nat)
  | truncated (expected received : Nat)
  | timeout (limit : Duration)
  | startup (error : StartupError)
  | invalidState (actual expected : Phase)
  | join (error : JoinError)
  | remote (message : String)
  | unexpectedResponse (description : String)
  | bridge (error : BridgeError)
deriving DecidableEq, Repr

namespace DaemonError

/-- The wording of a daemon error. -/
def message : DaemonError → String
  | .socket error => "Socket error: " ++ error.message
  | .codec error => "Message encoding failed: " ++ error.message
  | .frameTooLarge size => "Frame of " ++ toString size ++ " bytes exceeds the size limit"
  | .truncated expected received =>
      "Connection closed after " ++ toString received ++ " of " ++ toString expected ++
        " payload bytes"
  | .timeout limit => "No response from daemon within " ++ limit.text
  | .startup error => "Daemon startup failed: " ++ error.message
  | .invalidState actual expected =>
      "Daemon is " ++ actual.name ++ ", expected " ++ expected.name
  | .join error => "Waiting for the daemon task failed: " ++ error.message
  | .remote message => "Daemon reported failure: " ++ message
  | .unexpectedResponse description => "Unexpected daemon response: " ++ description
  | .bridge error => error.message

/-- The error behind this one, if it stands for another error. -/
def cause : DaemonError → Option String
  | .socket error => some error.message
  | .codec error => some error.message
  | _ => none

/-- The daemon error for a frame error; a read that stalls is reported as a
timeout. -/
def ofFrame (limit : Duration) : Wire.FrameError → DaemonError
  | .socket error => .socket error
  | .tooLarge size => .frameTooLarge size
  | .truncated expected received => .truncated expected received
  | .stalled => .timeout limit

/-- The daemon error for a call of the bridge without a result. -/
def ofCall : CallError → DaemonError
  | .failed error => .bridge error
  | .panicked report => .join (.callPanicked report)

end DaemonError

end GuiExplorer
