import GuiExplorer.Rehearsal.Host

/-!
# The program

The command line, run on a rehearsed host.  The arguments are those of the
process, and the script of the host is a JSON object on standard input.
-/

namespace GuiExplorer

/-- Read a stream to its end, after the text read so far. -/
partial def readRest (stream : IO.FS.Stream) (before : String) : IO String := do
  let line ← stream.getLine
  if line.isEmpty then return before
  readRest stream (before ++ line)

/-- How many rounds an exploration may take. -/
def roundLimit : Nat :=
  1000000

/-- Run the program and tell its exit status. -/
def runProgram (arguments : List String) : IO UInt32 := do
  match Json.ofText? (← readRest (← IO.getStdin) "") with
  | none =>
      (← IO.getStderr).putStr "Error: standard input holds no script\n"
      return 2
  | some script =>
      match Host.perform arguments script roundLimit with
      | .error refused =>
          (← IO.getStderr).putStr ("Error: no environment can hold " ++ refused.name ++ "\n")
          return 2
      | .ok none =>
          (← IO.getStderr).putStr "Error: the exploration does not end\n"
          return 2
      | .ok (some (outcome, _)) =>
          (← IO.getStdout).putStr outcome.printed
          (← IO.getStderr).putStr outcome.complaint
          return UInt32.ofNat outcome.exitCode

end GuiExplorer

/-- The entry point. -/
def main (arguments : List String) : IO UInt32 :=
  GuiExplorer.runProgram arguments
