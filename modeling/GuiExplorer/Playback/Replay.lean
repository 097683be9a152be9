import GuiExplorer.Playback.Trace
import GuiExplorer.Store.Recording
import GuiExplorer.Strategy.Context

/-!
# Replay of recorded runs

A playback goes through recorded traces and matches recorded widgets to those on
the live screen.  A step whose widget is not there is skipped, and so is a
recorded back that would do no good; the number of steps skipped in a row is
bounded.
-/

namespace GuiExplorer

/-- Why a strategy cannot decide. -/
inductive StrategyError where
  | skipLimitExceeded (skipped : Nat)
  | noCandidate (strategy reason : String)
deriving DecidableEq, Repr

/-- The wording of a strategy error. -/
def StrategyError.message : StrategyError → String
  | .skipLimitExceeded skipped =>
      "Playback skipped " ++ toString skipped ++ " consecutive recorded steps"
  | .noCandidate strategy reason => "Strategy " ++ strategy ++ " cannot decide: " ++ reason

/-- Recorded traces to replay. -/
structure Playback where
  package : String
  traces : List PlaybackTrace
  /-- How many steps may be skipped in a row. -/
  maxSkips : Nat
deriving DecidableEq, Repr

namespace Playback

/-- Default bound on the steps skipped while one action is decided. -/
def defaultMaxSkips : Nat :=
  128

/-- Append a recorded step: to a new trace if it is a reset or the first step of
all, otherwise to the last trace. -/
def addRecord (action : Action) (screen : Screen) : List PlaybackTrace → List PlaybackTrace
  | [] => [PlaybackTrace.empty.add action screen]
  | [last] =>
      if action.isReset then [last, PlaybackTrace.empty.add action screen]
      else [last.add action screen]
  | first :: rest => first :: addRecord action screen rest

/-- Split a recorded run into traces that start at its resets.  Steps before the
first reset form a trace of their own. -/
def ofRecords (package : String) (records : List (Action × Screen)) : Playback :=
  ⟨package, records.foldl (fun traces (action, screen) => addRecord action screen traces) [],
    defaultMaxSkips⟩

/-- Replay a recording. -/
def ofRecording (recording : Recording) : Playback :=
  ofRecords recording.package (recording.records.map fun entry => (entry.action, entry.screen))

/-- Whether every trace was replayed to its end. -/
def isComplete (playback : Playback) : Bool :=
  playback.traces.all PlaybackTrace.isComplete

/-- The explored shares of the traces. -/
def shares (playback : Playback) (widget : Option Widget) : List Share :=
  playback.traces.map (·.exploredShare widget)

/-- Replay progress as an exact fraction: the explored shares of the traces,
weighted by their sizes. -/
def exactRatio (playback : Playback) (widget : Option Widget) : Rat :=
  Share.exactMean (playback.shares widget)

/-- Replay progress in floating point. -/
def ratio (playback : Playback) (widget : Option Widget) : Float :=
  Share.floatMean (playback.shares widget)

/-- The action that replays a recorded step on the live screen, or none if the
step is skipped; `later` are the steps after it in the same trace.

A recorded back is skipped on the home screen, and also if the live screen
differs from the recorded one while the next recorded widget is already there. -/
def replay (context : Context) (entry : TraceEntry) (later : List TraceEntry) : Option Action :=
  match entry.action with
  | .onWidget widget gesture =>
      ((context.findExact widget).or (context.findAnywhere widget)).map (.onWidget · gesture)
  | .pressBack =>
      if context.screen.isHome then none
      else if (context.screen.similarity entry.screen).isFull then some .pressBack
      else
        let next := (PlaybackTrace.firstWidgetEntry later).bind (·.action.widget?)
        if (next.bind context.findAnywhere).isSome then none else some .pressBack
  | action => some action

/-- How the scan of pending steps ends. -/
inductive ScanEnd where
  /-- The last step passed is replayed by this action. -/
  | found (action : Action)
  /-- All steps are passed; so many were skipped so far. -/
  | exhausted (skipped : Nat)
  /-- More steps were skipped than allowed. -/
  | tooMany (skipped : Nat)
deriving DecidableEq, Repr

/-- Pass pending steps, of which `skipped` have been skipped before, up to the
first one that is replayed.  The result includes the number of steps passed. -/
def scan (context : Context) (maxSkips skipped : Nat) : List TraceEntry → Nat × ScanEnd
  | [] => (0, .exhausted skipped)
  | entry :: later =>
      match replay context entry later with
      | some action => (1, .found action)
      | none =>
          if maxSkips < skipped + 1 then (1, .tooMany (skipped + 1))
          else
            let (passed, ending) := scan context maxSkips (skipped + 1) later
            (passed + 1, ending)

/-- Find the next action in the traces, in order.  A recording that is replayed
to its end terminates. -/
def seek (context : Context) (maxSkips skipped : Nat) :
    List PlaybackTrace → Except StrategyError Action × List PlaybackTrace
  | [] => (.ok .terminate, [])
  | trace :: rest =>
      match scan context maxSkips skipped trace.pending with
      | (passed, .found action) => (.ok action, (trace.advance passed).explore :: rest)
      | (passed, .tooMany skipped) =>
          (.error (.skipLimitExceeded skipped), trace.advance passed :: rest)
      | (passed, .exhausted skipped) =>
          let (result, rest) := seek context maxSkips skipped rest
          (result, trace.advance passed :: rest)

/-- The next action to replay on the live screen. -/
def next (playback : Playback) (context : Context) : Except StrategyError Action × Playback :=
  let (result, traces) := seek context playback.maxSkips 0 playback.traces
  (result, { playback with traces := traces })

end Playback

end GuiExplorer
