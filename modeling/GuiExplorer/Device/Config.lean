import GuiExplorer.Time.Duration

/-!
# Daemon configuration

Where the daemon on a device is reached, and how long to wait for it.
-/

namespace GuiExplorer

/-- How a daemon client is set up. -/
structure DaemonConfig where
  /-- Serial number of the device. -/
  serial : String := ""
  /-- Host on which the forwarded port is reached. -/
  host : String := "127.0.0.1"
  /-- The forwarded port, the same on host and device. -/
  port : UInt16 := 59800
  /-- Instrumentation component that runs the daemon. -/
  runner : String := "org.uiautomator.daemon.test/android.support.test.runner.AndroidJUnitRunner"
  /-- Bound for one command and its response. -/
  socketTimeout : Duration := .ofSeconds 60
  /-- Bound for the start to be confirmed in the log. -/
  startTimeout : Duration := .ofSeconds 20
  /-- Pause between two readings of the log while waiting for that. -/
  startDelay : Duration := .ofSeconds 2
  /-- Bound for the daemon to end once it is stopped; there may be none. -/
  closeTimeout : Option Duration := none
deriving DecidableEq, Repr, Inhabited

end GuiExplorer
