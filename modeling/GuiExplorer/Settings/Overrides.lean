import GuiExplorer.Settings.Basic
import GuiExplorer.Settings.Environment

/-!
# Overrides

Most settings can be overridden by environment variables.  A text is taken as
it is.  A number is read after trimming blanks; one that cannot be read leaves
the setting as it was.
-/

namespace GuiExplorer

namespace Settings

/-- Override settings from the environment. -/
def overridden (settings : Settings) (env : Environment) : Settings :=
  { settings with
    deviceSerial := (env "DEVICE_SERIAL").getD settings.deviceSerial
    appPackage := (env "APP_PACKAGE").getD settings.appPackage
    adbPath := (env "ADB_PATH").getD settings.adbPath
    playbackTrace := (env "PLAYBACK_TRACE").getD settings.playbackTrace
    coverageDir := (env "COVERAGE_DIR").getD settings.coverageDir
    coverageLogTag := (env "COVERAGE_LOG_TAG").getD settings.coverageLogTag
    outputDir := (env "OUTPUT_DIR").getD settings.outputDir
    daemonPort := (env.uint16? "DAEMON_PORT").getD settings.daemonPort
    socketTimeoutMs := (env.uint64? "SOCKET_TIMEOUT_MS").getD settings.socketTimeoutMs
    serverStartTimeoutMs :=
      (env.uint64? "SERVER_START_TIMEOUT_MS").getD settings.serverStartTimeoutMs
    serverStartQueryDelayMs :=
      (env.uint64? "SERVER_START_QUERY_DELAY_MS").getD settings.serverStartQueryDelayMs
    actionLimit := (env.uint64? "ACTION_LIMIT").getD settings.actionLimit
    timeLimitSecs := (env.uint64? "TIME_LIMIT_SECS").getD settings.timeLimitSecs
    exhaustionThreshold :=
      (env.uint32? "WIDGET_EXHAUSTION_THRESHOLD").getD settings.exhaustionThreshold }

end Settings

end GuiExplorer
