import GuiExplorer.Device.Config
import GuiExplorer.Engine
import GuiExplorer.Json.Printer
import GuiExplorer.Json.Reader
import GuiExplorer.Store.File

/-!
# Settings

The settings of an exploration and the file they are kept in.  A file that
cannot be read, or of which any field is wrong, counts as if there were none; a
field that is left out has its default.  Fields that may not be empty or zero
get their defaults back after loading.
-/

namespace GuiExplorer

/-- Settings that can be saved and loaded. -/
structure Settings where
  deviceSerial : String := ""
  /-- Package of the app under exploration. -/
  appPackage : String := ""
  /-- The program that talks to devices. -/
  adbPath : String := "adb"
  /-- Port forwarded to the daemon. -/
  daemonPort : UInt16 := ({} : DaemonConfig).port
  /-- Instrumentation component that runs the daemon. -/
  daemonRunner : String := ({} : DaemonConfig).runner
  socketTimeoutMs : UInt64 := 60000
  serverStartTimeoutMs : UInt64 := 20000
  serverStartQueryDelayMs : UInt64 := 2000
  /-- Zero waits forever. -/
  closeTimeoutMs : UInt64 := 0
  /-- Zero sets no limit. -/
  actionLimit : UInt64 := 100
  /-- Zero sets no limit. -/
  timeLimitSecs : UInt64 := 0
  /-- Actions per widget before a screen counts as explored. -/
  exhaustionThreshold : UInt32 := Engine.defaultThreshold
  /-- The recording to replay; if empty the app is explored. -/
  playbackTrace : String := ""
  /-- Folder with instrumentation files; if empty there is no coverage. -/
  coverageDir : String := ""
  /-- Log tag under which executed statements are logged. -/
  coverageLogTag : String := "ExecutedStatements"
  /-- Folder for the recording and the model; if empty they are not saved. -/
  outputDir : String := "output"
deriving DecidableEq, Repr, Inhabited

namespace Settings

/-- The default settings. -/
def initial : Settings :=
  {}

/-- The folder of the settings file, within the folder for the settings of all
programs. -/
def configFolder : String :=
  "droid-explorer"

def fieldNames : List String :=
  ["device_serial", "app_package", "adb_path", "daemon_port", "daemon_runner",
   "socket_timeout_ms", "server_start_timeout_ms", "server_start_query_delay_ms",
   "close_timeout_ms", "action_limit", "time_limit_secs", "widget_exhaustion_threshold",
   "playback_trace", "coverage_dir", "coverage_log_tag", "output_dir"]

def toJson (settings : Settings) : Json :=
  .record [
    ("device_serial", .str settings.deviceSerial), ("app_package", .str settings.appPackage),
    ("adb_path", .str settings.adbPath), ("daemon_port", .int settings.daemonPort.toNat),
    ("daemon_runner", .str settings.daemonRunner),
    ("socket_timeout_ms", .int settings.socketTimeoutMs.toNat),
    ("server_start_timeout_ms", .int settings.serverStartTimeoutMs.toNat),
    ("server_start_query_delay_ms", .int settings.serverStartQueryDelayMs.toNat),
    ("close_timeout_ms", .int settings.closeTimeoutMs.toNat),
    ("action_limit", .int settings.actionLimit.toNat),
    ("time_limit_secs", .int settings.timeLimitSecs.toNat),
    ("widget_exhaustion_threshold", .int settings.exhaustionThreshold.toNat),
    ("playback_trace", .str settings.playbackTrace), ("coverage_dir", .str settings.coverageDir),
    ("coverage_log_tag", .str settings.coverageLogTag), ("output_dir", .str settings.outputDir)]

def ofJson? (value : Json) : Option Settings :=
  match value.fields? fieldNames with
  | some [deviceSerial, appPackage, adbPath, daemonPort, daemonRunner, socketTimeoutMs,
      serverStartTimeoutMs, serverStartQueryDelayMs, closeTimeoutMs, actionLimit, timeLimitSecs,
      exhaustionThreshold, playbackTrace, coverageDir, coverageLogTag, outputDir] => do
      let deviceSerial ← Json.orDefault initial.deviceSerial Json.text? deviceSerial
      let appPackage ← Json.orDefault initial.appPackage Json.text? appPackage
      let adbPath ← Json.orDefault initial.adbPath Json.text? adbPath
      let daemonPort ← Json.orDefault initial.daemonPort Json.uint16? daemonPort
      let daemonRunner ← Json.orDefault initial.daemonRunner Json.text? daemonRunner
      let socketTimeoutMs ← Json.orDefault initial.socketTimeoutMs Json.uint64? socketTimeoutMs
      let serverStartTimeoutMs ←
        Json.orDefault initial.serverStartTimeoutMs Json.uint64? serverStartTimeoutMs
      let serverStartQueryDelayMs ←
        Json.orDefault initial.serverStartQueryDelayMs Json.uint64? serverStartQueryDelayMs
      let closeTimeoutMs ← Json.orDefault initial.closeTimeoutMs Json.uint64? closeTimeoutMs
      let actionLimit ← Json.orDefault initial.actionLimit Json.uint64? actionLimit
      let timeLimitSecs ← Json.orDefault initial.timeLimitSecs Json.uint64? timeLimitSecs
      let exhaustionThreshold ←
        Json.orDefault initial.exhaustionThreshold Json.uint32? exhaustionThreshold
      let playbackTrace ← Json.orDefault initial.playbackTrace Json.text? playbackTrace
      let coverageDir ← Json.orDefault initial.coverageDir Json.text? coverageDir
      let coverageLogTag ← Json.orDefault initial.coverageLogTag Json.text? coverageLogTag
      let outputDir ← Json.orDefault initial.outputDir Json.text? outputDir
      some ⟨deviceSerial, appPackage, adbPath, daemonPort, daemonRunner, socketTimeoutMs,
        serverStartTimeoutMs, serverStartQueryDelayMs, closeTimeoutMs, actionLimit,
        timeLimitSecs, exhaustionThreshold, playbackTrace, coverageDir, coverageLogTag,
        outputDir⟩
  | _ => none

/-- A text, or the default for it if it is empty. -/
def nonEmpty (default text : String) : String :=
  if text.isEmpty then default else text

/-- A number, or the default for it if it is zero. -/
def nonZero [DecidableEq α] [OfNat α 0] (default value : α) : α :=
  if value = 0 then default else value

/-- Give the fields that may not be empty or zero their defaults back. -/
def backfilled (settings : Settings) : Settings :=
  { settings with
    adbPath := nonEmpty initial.adbPath settings.adbPath
    daemonRunner := nonEmpty initial.daemonRunner settings.daemonRunner
    coverageLogTag := nonEmpty initial.coverageLogTag settings.coverageLogTag
    daemonPort := nonZero initial.daemonPort settings.daemonPort
    socketTimeoutMs := nonZero initial.socketTimeoutMs settings.socketTimeoutMs
    serverStartTimeoutMs := nonZero initial.serverStartTimeoutMs settings.serverStartTimeoutMs
    serverStartQueryDelayMs :=
      nonZero initial.serverStartQueryDelayMs settings.serverStartQueryDelayMs }

/-- The text that is saved. -/
def save (settings : Settings) : String :=
  settings.toJson.pretty

/-- Read a saved text as a whole. -/
def ofText? (text : String) : Option Settings :=
  (Json.ofText? text).bind ofJson?

/-- Load the settings from the settings file. -/
def load (stored : StoredFile) : Settings :=
  match stored.load ofText? with
  | .ok settings => settings.backfilled
  | .error _ => initial.backfilled

end Settings

end GuiExplorer
