import GuiExplorer.Device.Worker
import GuiExplorer.Rehearsal.Scenario

/-!
# Rehearsed workers
-/

namespace GuiExplorer

/-- How a rehearsed worker behaves. -/
inductive Conduct where
  /-- It ends as soon as it was started. -/
  | brief (ending : WorkerEnd)
  /-- It ends when it is asked to stop. -/
  | obedient (ending : WorkerEnd)
  /-- It ends when it is let go, and not when it is asked to stop. -/
  | stubborn
deriving DecidableEq, Repr

/-- A rehearsed worker. -/
structure Actor where
  conduct : Conduct
  started : Bool
  stopRequested : Bool
  released : Bool
deriving DecidableEq, Repr

namespace Actor

/-- A worker that was not started yet. -/
def ofConduct (conduct : Conduct) : Actor :=
  ⟨conduct, false, false, false⟩

/-- The worker that a script names. -/
def ofName (name : String) : Actor :=
  let failure := WorkerEnd.failed (.daemonExited "exit status: 1")
  ofConduct (match name with
    | "exit" => .brief .finished
    | "fail" => .brief failure
    | "panic" => .brief .panicked
    | "fail_on_stop" => .obedient failure
    | "panic_on_stop" => .obedient .panicked
    | "stubborn" => .stubborn
    | _ => .obedient .finished)

def start (actor : Actor) : Actor :=
  { actor with started := true }

def requestStop (actor : Actor) : Actor :=
  { actor with stopRequested := true }

/-- Let a stubborn worker go. -/
def release (actor : Actor) : Actor :=
  { actor with released := true }

/-- How the worker ended, if it has. -/
def ending (actor : Actor) : Option WorkerEnd :=
  if actor.started then
    match actor.conduct with
    | .brief ending => some ending
    | .obedient ending => if actor.stopRequested then some ending else none
    | .stubborn => if actor.released then some .finished else none
  else none

/-- Wait for the worker.  A script does not wait without a limit for a worker that
goes on. -/
def awaitEnd (actor : Actor) : WorkerEnd :=
  actor.ending.getD .finished

end Actor

end GuiExplorer
