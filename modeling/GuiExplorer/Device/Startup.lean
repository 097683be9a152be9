import GuiExplorer.Device.Error
import GuiExplorer.Text.Blank

/-!
# Startup confirmation

The daemon confirms its start through the device log.  The log is read again
and again until it holds enough lines or the deadline has passed; then the
lines are checked.
-/

namespace GuiExplorer.Startup

/-- How many lines a confirmation has: one, or three on devices that print the
note about switched-off logging. -/
def expectedCount (messages : List String) : Nat :=
  if messages.any (Text.contains · logSwitchNote) then 3 else 1

/-- Check the lines collected while waiting for the daemon to start: as many as
expected, the last of which carries the start message. -/
def validate (messages : List String) : Except StartupError Unit :=
  match messages.getLast? with
  | none => .error .noMessage
  | some last =>
      if messages.length ≠ expectedCount messages then
        .error (.wrongCount (expectedCount messages) messages)
      else if Text.contains last serverStartMessage then .ok ()
      else .error (.unconfirmed messages)

/-- What is waited for: at least `minCount` lines with the tag. -/
structure Wait where
  tag : String
  minCount : Nat
  timeout : Duration
deriving DecidableEq, Repr

/-- Read the log until there are enough lines.  After `patience` more readings
the deadline has passed; the reading that finds it passed still counts. -/
def await (wait : Wait) (read : σ → Except CallError (List String) × σ) :
    (patience : Nat) → σ → Except DaemonError (List String) × σ
  | patience, world =>
      match read world with
      | (.error error, world) => (.error (.ofCall error), world)
      | (.ok messages, world) =>
          if wait.minCount ≤ messages.length then (.ok messages, world)
          else
            match patience with
            | 0 =>
                (.error (.startup
                  (.tooFewMessages wait.minCount wait.tag wait.timeout messages.length)), world)
            | patience + 1 => await wait read patience world

end GuiExplorer.Startup
