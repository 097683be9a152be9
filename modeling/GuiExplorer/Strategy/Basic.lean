import GuiExplorer.Playback.Replay
import GuiExplorer.Strategy.Criterion
import GuiExplorer.Text.Quoted

/-!
# Strategies

Each strategy rates every step by a priority and, if it is chosen, decides the
next action.
-/

namespace GuiExplorer

/-- How strongly a strategy wants to decide a step, from not at all upward. -/
inductive Priority where
  | none
  | explore
  | back
  /-- A particular widget must be acted upon. -/
  | specificWidget
  | reset
  | playback
  | terminate
deriving DecidableEq, Repr, Inhabited

namespace Priority

/-- The place in the order of priorities. -/
def rank : Priority → Nat
  | .none => 0
  | .explore => 1
  | .back => 2
  | .specificWidget => 3
  | .reset => 4
  | .playback => 5
  | .terminate => 6

instance : LT Priority := ⟨fun left right => left.rank < right.rank⟩

instance (left right : Priority) : Decidable (left < right) :=
  inferInstanceAs (Decidable (left.rank < right.rank))

def name : Priority → String
  | .none => "None"
  | .explore => "Explore"
  | .back => "Back"
  | .specificWidget => "SpecificWidget"
  | .reset => "Reset"
  | .playback => "Playback"
  | .terminate => "Terminate"

end Priority

/-- The strategies an engine can hold. -/
inductive Strategy where
  /-- Act on the widget that was acted upon least. -/
  | explore
  /-- Press back once every widget was acted upon more than `minActions` times. -/
  | back (minActions : UInt32)
  /-- Restart the app at the start of the run and when the app was left. -/
  | reset
  /-- Click the allow button of permission dialogs. -/
  | allowPermission
  /-- Replay a recording. -/
  | playback (recorded : Playback)
  /-- End the run once the criterion is met. -/
  | terminate (criterion : Criterion)

namespace Strategy

def actionBudget (limit : Nat) : Strategy :=
  .terminate (.actionBudget limit)

def timeBudget (limit : Duration) : Strategy :=
  .terminate (.timeBudget limit)

def name : Strategy → String
  | .explore => "Explore"
  | .back _ => "GuiFullyExploredBack"
  | .reset => "Reset"
  | .allowPermission => "AllowRuntimePermission"
  | .playback _ => "MemoryPlayback"
  | .terminate _ => "Terminate"

/-- The first widget with the lowest count, among `best` and those after it. -/
def leastUsedFrom (best : WidgetInfo) : List WidgetInfo → WidgetInfo
  | [] => best
  | info :: rest =>
      if best.actedCount ≤ info.actedCount then leastUsedFrom best rest
      else leastUsedFrom info rest

/-- The actionable widget with the lowest count; of several the first. -/
def leastUsed (context : Context) : Option WidgetInfo :=
  match context.actionable with
  | [] => none
  | first :: rest => some (leastUsedFrom first rest)

/-- The end of the resource id of allow buttons. -/
def allowButtonId : String :=
  "permission_allow_button"

/-- The button that grants a permission: by its resource id, else by the label
`allow`, else by the label `ok`. -/
def allowButton (context : Context) : Option Widget :=
  let candidates := context.actionable.map WidgetInfo.widget
  let labelled (label : String) : Option Widget :=
    candidates.find? fun widget => Text.sameIgnoringCase widget.data.text label
  (candidates.find? fun widget => Text.endsWith widget.data.resourceId allowButtonId).or
    ((labelled "allow").or (labelled "ok"))

/-- Whether the screen belongs neither to the app nor to a permission dialog. -/
def leftApp (context : Context) : Bool :=
  !context.screen.belongsTo context.appPackage && !context.screen.isPermissionDialog

/-- How strongly a strategy wants to decide the step. -/
def fitness (strategy : Strategy) (context : Context) : Priority :=
  match strategy with
  | .explore => if context.actionable.isEmpty then .none else .explore
  | .back minActions => if context.isExhausted minActions then .back else .none
  | .reset => if context.lastAction.isNone || leftApp context then .reset else .none
  | .allowPermission =>
      if context.screen.isPermissionDialog && (allowButton context).isSome then .specificWidget
      else .none
  | .playback _ => .playback
  | .terminate criterion => if criterion.isMet context then .terminate else .none

/-- The action a strategy chooses, and the strategy afterwards. -/
def decide (strategy : Strategy) (context : Context) : Except StrategyError Action × Strategy :=
  match strategy with
  | .explore =>
      (match leastUsed context with
        | some info => .ok (.interact info.widget)
        | none => .error (.noCandidate strategy.name "no actionable widget on screen"),
        strategy)
  | .back _ => (.ok .pressBack, strategy)
  | .reset => (.ok .reset, strategy)
  | .allowPermission =>
      (match allowButton context with
        | some button => .ok (.click button)
        | none => .error (.noCandidate strategy.name "no allow button on permission dialog"),
        strategy)
  | .playback recorded =>
      let (result, recorded) := recorded.next context
      (result, .playback recorded)
  | .terminate _ => (.ok .terminate, strategy)

/-- Why the run ends if the strategy has terminated it. -/
def terminationReason (strategy : Strategy) (context : Context) : String :=
  match strategy with
  | .playback recorded =>
      if recorded.isComplete then "all recorded traces replayed" else "recorded trace terminated"
  | .terminate criterion => criterion.reason context
  | other => other.name ++ " decided to terminate"

/-- Description for diagnostics; recorded traces are not spelled out. -/
def describe : Strategy → String
  | .explore => "Explore(Explore)"
  | .back minActions =>
      "Back(GuiFullyExploredBack \x7b min_actions_per_widget: " ++ toString minActions.toNat ++
        " \x7d)"
  | .reset => "Reset(ResetOnLeave)"
  | .allowPermission => "AllowPermission(AllowRuntimePermission)"
  | .playback recorded =>
      "Playback(MemoryPlayback \x7b package: " ++ Text.quoted recorded.package ++ ", traces: " ++
        (if recorded.traces.isEmpty then "[]" else "[..]") ++ ", max_consecutive_skips: " ++
        toString recorded.maxSkips ++ " \x7d)"
  | .terminate _ => "Terminate(Terminate \x7b .. \x7d)"

end Strategy

end GuiExplorer
