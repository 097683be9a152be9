import GuiExplorer.CommandLine.Error
import GuiExplorer.Device.Machine
import GuiExplorer.Exploration.Explorer
import GuiExplorer.Number.Fixed
import GuiExplorer.Settings.Overrides
import GuiExplorer.Settings.Setup

/-!
# The command line

The program lists the connected devices, saves its settings, or explores an app.
It explores only when it knows the app and the device, and has loaded all that
the settings name; until then it does nothing to any device.
-/

namespace GuiExplorer.CommandLine

/-- What the program is started with. -/
structure Invocation where
  arguments : List String
  environment : Environment
  /-- The folder for the settings file, if it is known. -/
  configFolder : Option String
  settingsFile : StoredFile
  files : String → StoredFile
  folders : String → Option Instrumentation.Folder

/-- What the program prints, and why it failed if it did. -/
structure Outcome where
  printed : String
  error : Option CommandLineError
deriving DecidableEq, Repr

namespace Outcome

/-- The program did what it was asked to. -/
def success (printed : String) : Outcome :=
  ⟨printed, none⟩

def failure (error : CommandLineError) (printed : String := "") : Outcome :=
  ⟨printed, some error⟩

/-- The status that the program exits with. -/
def exitCode (outcome : Outcome) : Nat :=
  if outcome.error.isSome then 1 else 0

/-- What the program prints about its failure. -/
def complaint (outcome : Outcome) : String :=
  (outcome.error.map CommandLineError.report).getD ""

end Outcome

/-- Whether a flag was given. -/
def Invocation.has (invocation : Invocation) (flag : String) : Bool :=
  invocation.arguments.contains flag

/-- The settings: those saved, and the environment on top. -/
def Invocation.settings (invocation : Invocation) : Settings :=
  (Settings.load invocation.settingsFile).overridden invocation.environment

/-- Lines of text. -/
def unlines (lines : List String) : String :=
  String.join (lines.map (· ++ "\n"))

/-- Name of the settings file. -/
def settingsFileName : String :=
  "settings.json"

/-- The line that describes a device. -/
def describeDevice (device : DeviceInfo) : String :=
  "\t".intercalate [device.serial, device.status, device.model.getD "-"]

variable {σ : Type}

/-- List the connected devices. -/
def listDevices (machine : Machine σ) (settings : Settings) (state : σ) : Outcome × σ :=
  match Bridge.listDevices (machine.run settings.adbPath) state with
  | (.error error, state) => (.failure (.bridge error), state)
  | (.ok [], state) => (.success (unlines ["No devices connected."]), state)
  | (.ok devices, state) => (.success (unlines (devices.map describeDevice)), state)

/-- Save the settings. -/
def saveSettings (machine : Machine σ) (configFolder : Option String) (settings : Settings)
    (state : σ) : Outcome × σ :=
  match configFolder with
  | none => (.failure (.save .noFolder), state)
  | some folder =>
    match machine.makeFolder folder state with
    | (.error error, state) => (.failure (.save (.folder error)), state)
    | (.ok _, state) =>
      match machine.write folder settingsFileName settings.save state with
      | (.error error, state) => (.failure (.save (.file error)), state)
      | (.ok _, state) =>
          (.success (unlines ["Settings saved to " ++ folder ++ "/" ++ settingsFileName]), state)

/-- The serial of the device to explore on: the one in the settings, or else that of
the first device that is ready. -/
def chooseDevice (machine : Machine σ) (settings : Settings) (state : σ) :
    Except CommandLineError String × σ :=
  if settings.deviceSerial.isEmpty then
    match Bridge.listDevices (machine.run settings.adbPath) state with
    | (.error error, state) => (.error (.bridge error), state)
    | (.ok devices, state) =>
        match devices.find? (·.status = "device") with
        | some device => (.ok device.serial, state)
        | none => (.error .noDevice, state)
  else (.ok settings.deviceSerial, state)

/-- A line across the output. -/
def rule : String :=
  String.ofList (List.replicate 50 '=')

/-- What is printed before a run. -/
def heading (settings : Settings) : String :=
  unlines (
    ["Droid Explorer - automated Android GUI exploration", rule,
     "App: " ++ settings.appPackage, "Device: " ++ settings.deviceSerial,
     "Daemon port: " ++ toString settings.daemonPort.toNat] ++
    (if settings.playbackTrace.isEmpty then [] else ["Replaying: " ++ settings.playbackTrace]) ++
    (if settings.actionLimit = 0 then []
      else ["Action limit: " ++ toString settings.actionLimit.toNat]) ++
    (if settings.timeLimitSecs = 0 then []
      else ["Time limit: " ++ toString settings.timeLimitSecs.toNat ++ "s"]) ++
    [rule, ""])

/-- A duration in seconds as a double. -/
def seconds (duration : Duration) : Float :=
  (duration.nanoseconds / 1000000000).toFloat +
    (duration.nanoseconds % 1000000000).toFloat / 1000000000

/-- A share in per cent. -/
def percent (share : Share) : String :=
  Number.fixedFloat 2 (share.float * 100) ++ "%"

/-- What is printed after a run. -/
def closing (summary : Summary) : String :=
  unlines (
    ["", rule, "Actions: " ++ toString summary.actions,
     "Distinct screens: " ++ toString summary.screens,
     "Duration: " ++ Number.fixedFloat 1 (seconds summary.duration) ++ "s"] ++
    (summary.terminationReason.map ("Terminated: " ++ ·)).toList ++
    (summary.coverage.map fun share => "Statement coverage: " ++ percent share).toList ++
    [rule])

/-- The monitor of the coverage, if it is to be monitored. -/
def monitor (invocation : Invocation) (settings : Settings) :
    Except StoreError (Option CoverageMonitor) :=
  if settings.coverageDir.isEmpty then .ok none
  else
    (Instrumentation.load (invocation.folders settings.coverageDir) settings.appPackage).map
      fun instrumentation => some (.ofInstrumentation instrumentation)

/-- What a run needs: the strategies and the monitor.  The strategies are loaded
first. -/
def prepare (invocation : Invocation) (settings : Settings) :
    Except StoreError (List Strategy × Option CoverageMonitor) :=
  match settings.pool invocation.files with
  | .error error => .error error
  | .ok pool =>
      match monitor invocation settings with
      | .error error => .error error
      | .ok monitor => .ok (pool, monitor)

/-- The explorer that the settings set up. -/
def explorer (settings : Settings) (pool : List Strategy) (monitor : Option CoverageMonitor)
    (state : σ) : Explorer σ :=
  { Explorer.new (Client.ofConfig settings.daemonConfig state) (settings.engine pool)
      settings.appPackage settings.outputFolder with
    coverage := monitor }

/-- Explore an app on a device that is known.  There is no outcome if the run takes
more rounds than the limit. -/
def explore (machine : Machine σ) (limit : Nat) (invocation : Invocation) (settings : Settings)
    (state : σ) : Option (Outcome × σ) :=
  let heading := heading settings
  match prepare invocation settings with
  | .error error => some (.failure (.store error) heading, state)
  | .ok (pool, monitor) =>
      let world := machine.world settings.adbPath settings.deviceSerial settings.coverageLogTag
      ((explorer settings pool monitor state).explore world limit).map fun (result, explorer) =>
        match result with
        | .error error => (.failure (.exploration error) heading, explorer.outside)
        | .ok summary => (.success (heading ++ closing summary), explorer.outside)

/-- Run the program.  There is no outcome if an exploration takes more rounds than the
limit. -/
def run (machine : Machine σ) (limit : Nat) (invocation : Invocation) (state : σ) :
    Option (Outcome × σ) :=
  let settings := invocation.settings
  if invocation.has "--list-devices" then some (listDevices machine settings state)
  else if invocation.has "--save-settings" then
    some (saveSettings machine invocation.configFolder settings state)
  else if settings.appPackage.isEmpty then some (.failure .noPackage, state)
  else
    match chooseDevice machine settings state with
    | (.error error, state) => some (.failure error, state)
    | (.ok serial, state) =>
        explore machine limit invocation { settings with deviceSerial := serial } state

end GuiExplorer.CommandLine
