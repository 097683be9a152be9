import GuiExplorer.Coverage.Instrumentation
import GuiExplorer.Coverage.Statement
import GuiExplorer.Number.Share
import GuiExplorer.Text.Digit
import GuiExplorer.Time.Timestamp

/-!
# Coverage monitoring

A monitor keeps for each executed statement the time it was seen first.
Without instrumentation data it still collects statements, but reports a
coverage of zero.
-/

namespace GuiExplorer

/-- An executed statement and when it was seen first. -/
structure Execution where
  id : String
  seen : Timestamp
deriving DecidableEq, Repr

namespace Execution

/-- Executions are ordered by time, those at one time by id. -/
def le (left right : Execution) : Bool :=
  left.seen.rank < right.seen.rank || (left.seen.rank = right.seen.rank && left.id ≤ right.id)

end Execution

/-- Tracks which statements were executed. -/
structure CoverageMonitor where
  instrumentation : Instrumentation
  /-- One for each executed statement. -/
  executed : List Execution
deriving DecidableEq, Repr, Inhabited

namespace CoverageMonitor

/-- Nothing was executed yet. -/
def ofInstrumentation (instrumentation : Instrumentation) : CoverageMonitor :=
  ⟨instrumentation, []⟩

/-- A statement id is an unsigned number of 64 bits. -/
def isStatementId (id : String) : Bool :=
  (Text.readUnsigned UInt64.size id.toList).isSome

/-- The execution that a record tells, unless its time or id is malformed. -/
def execution? (entry : StatementRecord) : Option Execution :=
  match Timestamp.ofText? entry.timestamp with
  | some seen => if isStatementId entry.id then some ⟨entry.id, seen⟩ else none
  | none => none

/-- Add an execution unless the statement was executed before. -/
def insert (executed : List Execution) (execution : Execution) : List Execution :=
  if executed.any (·.id = execution.id) then executed else executed ++ [execution]

/-- Take in new records. -/
def update (monitor : CoverageMonitor) (records : List StatementRecord) : CoverageMonitor :=
  { monitor with executed := (records.filterMap execution?).foldl insert monitor.executed }

/-- Whether a record tells that a statement was executed for the first time. -/
def isNews (monitor : CoverageMonitor) (entry : StatementRecord) : Bool :=
  match execution? entry with
  | some execution => !monitor.executed.any (·.id = execution.id)
  | none => false

/-- How many statements new records tell to have been executed for the first time. -/
def added (monitor : CoverageMonitor) : List StatementRecord → Nat
  | [] => 0
  | entry :: rest =>
      (if monitor.isNews entry then 1 else 0) + (monitor.update [entry]).added rest

def executedCount (monitor : CoverageMonitor) : Nat :=
  monitor.executed.length

/-- Executed of instrumented statements. -/
def coverage (monitor : CoverageMonitor) : Share :=
  ⟨monitor.executedCount, monitor.instrumentation.size⟩

/-- Executed statements in the order of their times. -/
def snapshot (monitor : CoverageMonitor) : List Execution :=
  monitor.executed.mergeSort Execution.le

end CoverageMonitor

end GuiExplorer
