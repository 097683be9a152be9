import GuiExplorer.Action.Basic
import GuiExplorer.Number.Share

/-!
# Recorded traces

A trace is a sequence of recorded steps with a cursor that only moves forward.
A step that the cursor has passed was either replayed or skipped.
-/

namespace GuiExplorer

/-- One recorded step: the action and the screen it was taken on. -/
structure TraceEntry where
  action : Action
  screen : Screen
  /-- Whether this step was replayed. -/
  explored : Bool
deriving DecidableEq, Repr

/-- Whether the step acts on a widget structurally equal to the given one; every
step counts if none is given. -/
def TraceEntry.targets (entry : TraceEntry) (widget : Option Widget) : Bool :=
  match widget with
  | none => true
  | some widget => entry.action.widget?.any (·.matchesExactly widget)

/-- Recorded steps with a replay cursor. -/
structure PlaybackTrace where
  entries : List TraceEntry
  /-- Position of the next step to replay. -/
  cursor : Nat
deriving DecidableEq, Repr, Inhabited

namespace PlaybackTrace

/-- A trace without steps. -/
def empty : PlaybackTrace :=
  ⟨[], 0⟩

/-- Append a step. -/
def add (trace : PlaybackTrace) (action : Action) (screen : Screen) : PlaybackTrace :=
  { trace with entries := trace.entries ++ [⟨action, screen, false⟩] }

/-- The steps from the cursor on. -/
def pending (trace : PlaybackTrace) : List TraceEntry :=
  trace.entries.drop trace.cursor

/-- Whether the cursor passed the last step. -/
def isComplete (trace : PlaybackTrace) : Bool :=
  trace.entries.length ≤ trace.cursor

/-- Move the cursor past `count` steps. -/
def advance (trace : PlaybackTrace) (count : Nat) : PlaybackTrace :=
  { trace with cursor := trace.cursor + count }

/-- Mark the step before the cursor as replayed. -/
def explore (trace : PlaybackTrace) : PlaybackTrace :=
  match trace.cursor with
  | 0 => trace
  | last + 1 =>
      { trace with entries := trace.entries.modify last fun entry =>
          { entry with explored := true } }

/-- Take the next step and move the cursor past it. -/
def next (trace : PlaybackTrace) : Option TraceEntry × PlaybackTrace :=
  match trace.pending with
  | [] => (none, trace)
  | entry :: _ => (some entry, trace.advance 1)

/-- The next step. -/
def peek (trace : PlaybackTrace) : Option TraceEntry :=
  trace.pending.head?

/-- The first step among the given ones that acts on a widget. -/
def firstWidgetEntry (entries : List TraceEntry) : Option TraceEntry :=
  entries.find? (·.action.widget?.isSome)

/-- The next step that acts on a widget. -/
def peekWidget (trace : PlaybackTrace) : Option TraceEntry :=
  firstWidgetEntry trace.pending

/-- The steps that act on the widget, if one is given. -/
def targeting (trace : PlaybackTrace) (widget : Option Widget) : List TraceEntry :=
  trace.entries.filter (·.targets widget)

/-- Number of steps that act on the widget. -/
def size (trace : PlaybackTrace) (widget : Option Widget) : Nat :=
  (trace.targeting widget).length

/-- The share of the steps acting on the widget that were replayed. -/
def exploredShare (trace : PlaybackTrace) (widget : Option Widget) : Share :=
  Share.count TraceEntry.explored (trace.targeting widget)

end PlaybackTrace

end GuiExplorer
