import GuiExplorer.Settings.Basic
import GuiExplorer.Store.Recording

/-!
# What the settings set up

The daemon client, the pool of strategies and the engine that follow from the
settings.
-/

namespace GuiExplorer.Settings

/-- The setup of the daemon client. -/
def daemonConfig (settings : Settings) : DaemonConfig where
  serial := settings.deviceSerial
  port := settings.daemonPort
  runner := settings.daemonRunner
  socketTimeout := .ofMillis settings.socketTimeoutMs.toNat
  startTimeout := .ofMillis settings.serverStartTimeoutMs.toNat
  startDelay := .ofMillis settings.serverStartQueryDelayMs.toNat
  closeTimeout :=
    if settings.closeTimeoutMs = 0 then none else some (.ofMillis settings.closeTimeoutMs.toNat)

/-- The folder for the recording and the model, if they are saved. -/
def outputFolder (settings : Settings) : Option String :=
  if settings.outputDir.isEmpty then none else some settings.outputDir

/-- The strategies that end the run. -/
def budgets (settings : Settings) : List Strategy :=
  (if settings.actionLimit = 0 then [] else [.actionBudget settings.actionLimit.toNat]) ++
    if settings.timeLimitSecs = 0 then []
    else [.timeBudget (.ofSeconds settings.timeLimitSecs.toNat)]

/-- The strategies that explore. -/
def explorers (settings : Settings) : List Strategy :=
  [.reset, .allowPermission, .back settings.exhaustionThreshold, .explore]

/-- The strategies in the order of registration: first the budgets, so that they
win ties, and then either the replay of a recording or the exploration. -/
def pool (settings : Settings) (files : String → StoredFile) :
    Except StoreError (List Strategy) :=
  if settings.playbackTrace.isEmpty then .ok (settings.budgets ++ settings.explorers)
  else
    match Recording.load (files settings.playbackTrace) with
    | .ok recording => .ok (settings.budgets ++ [.playback (.ofRecording recording)])
    | .error error => .error error

/-- An engine with the configured threshold. -/
def engine (settings : Settings) (strategies : List Strategy) : Engine :=
  .ofStrategies settings.exhaustionThreshold strategies

end GuiExplorer.Settings
