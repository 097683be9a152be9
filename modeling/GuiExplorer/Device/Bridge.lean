import GuiExplorer.Device.Process
import GuiExplorer.Text.Blank
import GuiExplorer.Text.Utf8

/-!
# The command-line bridge

Devices are reached through a program of the host, `adb`.  Each operation runs
the program with a list of arguments and reads what it prints.
-/

namespace GuiExplorer

/-- A connected device. -/
structure DeviceInfo where
  serial : String
  status : String
  model : Option String
deriving DecidableEq, Repr

/-- What a program printed and how it ended. -/
structure ProgramOutput where
  status : ExitStatus
  stdout : List UInt8
  stderr : List UInt8
deriving DecidableEq, Repr

/-- A way to run the program with a list of arguments until it ends. -/
abbrev Runner (σ : Type) := List String → σ → Except OsError ProgramOutput × σ

namespace Bridge

/-- Printed text; whatever is not UTF-8 is replaced. -/
def printed (bytes : List UInt8) : List Char :=
  Text.decodeUtf8Lossy bytes

/-- The arguments that choose a device. -/
def onDevice (serial : String) (arguments : List String) : List String :=
  "-s" :: serial :: arguments

/-- Forward a port of the host to the same port of the device. -/
def forwardArguments (port : UInt16) : List String :=
  let place := "tcp:" ++ toString port.toNat
  ["forward", place, place]

/-- Drop what the log holds. -/
def clearArguments : List String :=
  ["logcat", "-c"]

/-- Print the messages in the log that carry the tag. -/
def logArguments (tag : String) : List String :=
  ["logcat", "-d", "-v", "raw", "-s", tag ++ ":V"]

/-- Run the daemon on a port. -/
def launchArguments (port : UInt16) (runner : String) : List String :=
  ["shell", "am", "instrument", "-w", "-r", "-e", "port", toString port.toNat, runner]

/-- List the connected devices. -/
def listArguments : List String :=
  ["devices", "-l"]

/-- What the end of a program on a device means. -/
def check (serial : String) (arguments : List String) :
    Except OsError ProgramOutput → Except BridgeError ProgramOutput
  | .error error => .error (Process.failed error)
  | .ok output =>
      if output.status.isSuccess then .ok output
      else
        let reason := printed output.stderr
        if Text.occursIn "not found".toList reason then .error (.deviceNotFound serial)
        else
          .error (.commandFailed ("adb " ++ " ".intercalate arguments ++ " failed: " ++
            String.ofList (Text.trim reason)))

/-- Run the program for a device. -/
def run (runner : Runner σ) (serial : String) (arguments : List String) (state : σ) :
    Except BridgeError ProgramOutput × σ :=
  let (output, state) := runner (onDevice serial arguments) state
  (check serial arguments output, state)

/-- Forward a port of the host to the same port of the device. -/
def forward (runner : Runner σ) (serial : String) (port : UInt16) (state : σ) :
    Except BridgeError Unit × σ :=
  let (output, state) := run runner serial (forwardArguments port) state
  (output.map fun _ => (), state)

/-- Drop what the log of the device holds. -/
def clearLog (runner : Runner σ) (serial : String) (state : σ) : Except BridgeError Unit × σ :=
  let (output, state) := run runner serial clearArguments state
  (output.map fun _ => (), state)

/-- Begins each of the lines that separate the buffers of the log. -/
def bufferMark : List Char :=
  "--------- beginning of".toList

/-- The messages in the printed log. -/
def logMessages (text : List Char) : List String :=
  ((Text.lines text).map Text.trim).filterMap fun line =>
    if line.isEmpty || bufferMark.isPrefixOf line then none else some (String.ofList line)

/-- The messages in the log that carry the tag. -/
def readLog (runner : Runner σ) (serial tag : String) (state : σ) :
    Except BridgeError (List String) × σ :=
  let (output, state) := run runner serial (logArguments tag) state
  (output.map fun output => logMessages (printed output.stdout), state)

/-- Stands before the model in the description of a device. -/
def modelMark : List Char :=
  "model:".toList

/-- Drop the mark as often as it stands at the front. -/
def dropMarks (word : List Char) : List Char :=
  if modelMark.isPrefixOf word then
    match word with
    | [] => []
    | _ :: rest => dropMarks (rest.drop (modelMark.length - 1))
  else word
termination_by word.length
decreasing_by
  simp only [List.length_drop, List.length_cons]
  omega

/-- The device that a line describes: a serial, a status and further words. -/
def deviceOfLine? (line : List Char) : Option DeviceInfo :=
  match Text.words line with
  | serial :: status :: more =>
      let model := (serial :: status :: more).find? modelMark.isPrefixOf
      some ⟨String.ofList serial, String.ofList status,
        model.map fun word => String.ofList (dropMarks word)⟩
  | _ => none

/-- The devices in a printed list, whose first line is a heading. -/
def devicesOfList (text : List Char) : List DeviceInfo :=
  ((Text.lines text).drop 1).filterMap deviceOfLine?

/-- The connected devices.  How the program ended does not matter. -/
def listDevices (runner : Runner σ) (state : σ) : Except BridgeError (List DeviceInfo) × σ :=
  match runner listArguments state with
  | (.error error, state) => (.error (Process.failed error), state)
  | (.ok output, state) => (.ok (devicesOfList (printed output.stdout)), state)

end Bridge

end GuiExplorer
