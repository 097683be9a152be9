import GuiExplorer.Device.Error
import GuiExplorer.Engine
import GuiExplorer.Store.File

/-!
# Errors of a run

A run halts at the first error of the device, of the engine or of the store, or
when a screen cannot be observed.
-/

namespace GuiExplorer

/-- Why a run halted. -/
inductive ExplorationError where
  | device (error : DaemonError)
  | engine (error : EngineError)
  | store (error : StoreError)
  /-- The decoder of screen captures broke down. -/
  | observation
deriving DecidableEq, Repr

namespace ExplorationError

/-- The wording of the error of a run. -/
def message : ExplorationError → String
  | .device error => "Device error: " ++ error.message
  | .engine error => "Engine error: " ++ error.message
  | .store error => "Store error: " ++ error.message
  | .observation => "Observation failed: <text>"

/-- The wordings of the errors behind this one, the nearest first. -/
def causes : ExplorationError → List String
  | .device error => error.message :: error.cause.toList
  | .engine error => error.message :: error.cause.toList
  | .store error => [error.message]
  | .observation => []

end ExplorationError

end GuiExplorer
