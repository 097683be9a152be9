import GuiExplorer.Device.Error

/-!
# The worker behind a client

A worker runs the daemon in the background until the daemon ends or the worker
is asked to stop.  Whoever started it holds a handle: through it the worker can
be asked to stop, and its ending is fetched, once.
-/

namespace GuiExplorer

/-- How a worker ended. -/
inductive WorkerEnd where
  | finished
  | failed (error : BridgeError)
  /-- It broke down instead of returning. -/
  | panicked
deriving DecidableEq, Repr

/-- What the ending means to whoever waited for it. -/
def WorkerEnd.result : WorkerEnd → Except DaemonError Unit
  | .finished => .ok ()
  | .failed error => .error (.bridge error)
  | .panicked => .error (.join .panicked)

/-- What a wait for the end of a worker comes to. -/
inductive Waited where
  | ended (ending : WorkerEnd)
  /-- The worker was still running when the limit had passed. -/
  | expired (limit : Duration)
deriving DecidableEq, Repr

/-- The handle of a worker. -/
structure WorkerHandle where
  /-- Whether the ending of the worker has not been fetched yet. -/
  joinable : Bool
  /-- Whether the worker was asked to stop. -/
  stopRequested : Bool
deriving DecidableEq, Repr

namespace WorkerHandle

/-- The handle of a worker that was just started. -/
def spawned : WorkerHandle :=
  ⟨true, false⟩

/-- Whether the worker is running, given how it ended if it has. -/
def isAlive (handle : WorkerHandle) (ending : Option WorkerEnd) : Bool :=
  handle.joinable && ending.isNone

/-- Ask the worker to stop. -/
def requestStop (handle : WorkerHandle) : WorkerHandle :=
  { handle with stopRequested := true }

/-- Give the handle up.  A worker that is running then is asked to stop. -/
def drop (handle : WorkerHandle) (ending : Option WorkerEnd) : WorkerHandle :=
  if handle.isAlive ending then handle.requestStop else handle

/-- Fetch the ending that a wait came to.  After a wait that expired the worker
can still be joined; once the ending is fetched there is nothing to wait for. -/
def join (handle : WorkerHandle) (waited : Waited) : Except DaemonError Unit × WorkerHandle :=
  if handle.joinable then
    match waited with
    | .ended ending => (ending.result, { handle with joinable := false })
    | .expired limit => (.error (.join (.stillRunning limit)), handle)
  else (.ok (), handle)

end WorkerHandle

end GuiExplorer
