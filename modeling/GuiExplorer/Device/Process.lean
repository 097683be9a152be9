import GuiExplorer.Device.Error

/-!
# Supervised processes

The daemon is kept running by a process on the host.  The process is polled
until it has exited or a stop is requested; then it is killed and reaped.  A
process that exits on its own just before it is killed is reaped like any other.
-/

namespace GuiExplorer

/-- An error in an operation on a process. -/
structure OsError where
  /-- The number of the error, if it is one of the operating system's own. -/
  number : Option Nat
  reason : String
deriving DecidableEq, Repr

namespace OsError

/-- The wording of an error. -/
def message (error : OsError) : String :=
  match error.number with
  | some number => error.reason ++ " (os error " ++ toString number ++ ")"
  | none => error.reason

def notPermitted : OsError :=
  ⟨some 1, "Operation not permitted"⟩

def notFound : OsError :=
  ⟨some 2, "No such file or directory"⟩

def noChild : OsError :=
  ⟨some 10, "No child processes"⟩

/-- What stands under the name of the program is no program. -/
def permissionDenied : OsError :=
  ⟨some 13, "Permission denied"⟩

def notDirectory : OsError :=
  ⟨some 20, "Not a directory"⟩

def nameTooLong : OsError :=
  ⟨some 36, "File name too long"⟩

/-- The name of the program or an argument holds a NUL, which ends the text of an
argument. -/
def nulInArgument : OsError :=
  ⟨none, "nul byte found in provided data"⟩

end OsError

/-- How a process ended. -/
inductive ExitStatus where
  | code (value : Nat)
  | signal (number : Nat) (name : String)
deriving DecidableEq, Repr

namespace ExitStatus

def text : ExitStatus → String
  | .code value => "exit status: " ++ toString value
  | .signal number name => "signal: " ++ toString number ++ " (" ++ name ++ ")"

def isSuccess (status : ExitStatus) : Bool :=
  status = .code 0

end ExitStatus

namespace Process

/-- What a poll finds: whether the process has exited, and whether a stop was
requested when it had not. -/
structure Poll where
  status : Except OsError (Option ExitStatus)
  stopRequested : Bool

/-- What a process meets when it is stopped. -/
structure Stopping where
  kill : Except OsError Unit
  /-- The poll after a kill that failed. -/
  recheck : Except OsError (Option ExitStatus)
  reap : Except OsError ExitStatus

/-- The operations on a process. -/
inductive Call where
  | poll
  | kill
  | reap
deriving DecidableEq, Repr

/-- The outcome of supervising a process, and the operations in their order. -/
abbrev Supervised := Except BridgeError Unit × List Call

/-- An operation failed. -/
def failed (error : OsError) : BridgeError :=
  .commandFailed error.message

/-- Reap a process that has exited. -/
def Stopping.reaped (stopping : Stopping) : Except BridgeError Unit :=
  match stopping.reap with
  | .ok _ => .ok ()
  | .error error =>
      .error (.commandFailed ("failed to reap daemon process: " ++ error.message))

/-- Kill a process and reap it. -/
def Stopping.run (stopping : Stopping) : Supervised :=
  match stopping.kill with
  | .ok _ => (stopping.reaped, [.kill, .reap])
  | .error denied =>
      match stopping.recheck with
      | .error error => (.error (failed error), [.kill, .poll])
      | .ok none =>
          (.error (.commandFailed ("failed to kill daemon process: " ++ denied.message)),
            [.kill, .poll])
      | .ok (some _) => (stopping.reaped, [.kill, .poll, .reap])

/-- What an exit of its own means. -/
def exited (status : ExitStatus) : Except BridgeError Unit :=
  if status.isSuccess then .ok () else .error (.daemonExited status.text)

/-- Poll a process until it has exited or is stopped; no outcome if it is still
running after the given polls. -/
def supervise (stopping : Stopping) : List Poll → Option Supervised
  | [] => none
  | poll :: later =>
      match poll.status with
      | .error error => some (.error (failed error), [.poll])
      | .ok (some status) => some (exited status, [.poll])
      | .ok none =>
          if poll.stopRequested then
            let (result, calls) := stopping.run
            some (result, .poll :: calls)
          else (supervise stopping later).map fun (result, calls) => (result, .poll :: calls)

end Process

end GuiExplorer
