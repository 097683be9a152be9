import GuiExplorer.Screen

/-!
# Actions

The steps of an exploration: gestures on widgets, and the four actions that
need no widget.
-/

namespace GuiExplorer

/-- A gesture dispatched to a widget. -/
inductive Gesture where
  | click
  | longClick
  /-- Toggle a checkable widget. -/
  | tick
deriving DecidableEq, Repr, Inhabited

namespace Gesture

/-- The natural gesture for a widget. -/
def natural (data : WidgetData) : Gesture :=
  if data.isCheckable then .tick
  else if data.longClickable && !data.clickable then .longClick
  else .click

def name : Gesture → String
  | .click => "Click"
  | .longClick => "LongClick"
  | .tick => "Tick"

end Gesture

/-- The next step of an exploration. -/
inductive Action where
  /-- Restart the app under exploration. -/
  | reset
  /-- End the exploration. -/
  | terminate
  | pressBack
  | onWidget (widget : Widget) (gesture : Gesture)
  /-- Only observe the screen. -/
  | observe
deriving DecidableEq, Repr, Inhabited

namespace Action

def click (widget : Widget) : Action :=
  .onWidget widget .click

/-- Act on a widget with its natural gesture. -/
def interact (widget : Widget) : Action :=
  .onWidget widget (Gesture.natural widget.data)

/-- The targeted widget, for widget actions. -/
def widget? : Action → Option Widget
  | .onWidget widget _ => some widget
  | _ => none

def isTerminate : Action → Bool
  | .terminate => true
  | _ => false

def isReset : Action → Bool
  | .reset => true
  | _ => false

/-- Short name of the kind of action. -/
def kind : Action → String
  | .reset => "Reset"
  | .terminate => "Terminate"
  | .pressBack => "PressBack"
  | .onWidget _ _ => "WidgetAction"
  | .observe => "Empty"

/-- Description of an action: its kind, or the gesture and the widget. -/
def text : Action → String
  | .onWidget widget gesture => gesture.name ++ " " ++ widget.shortText
  | action => action.kind

/-- Whether two actions are of the same kind, with the same gesture and widgets
with the same identifiers. -/
def sameId : Action → Action → Bool
  | .onWidget widget gesture, .onWidget other otherGesture =>
      gesture == otherGesture && widget.sameId other
  | .onWidget _ _, _ => false
  | _, .onWidget _ _ => false
  | action, other => action.kind == other.kind

end Action

end GuiExplorer
