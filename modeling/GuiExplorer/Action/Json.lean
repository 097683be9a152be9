import GuiExplorer.Action.Basic
import GuiExplorer.Widget.Json

/-!
# Actions in JSON

An action without data is written as its name, a widget action as an object
from its name to the widget and the gesture.
-/

namespace GuiExplorer

namespace Gesture

def toJson (gesture : Gesture) : Json :=
  .str gesture.name

/-- The gesture of a name. -/
def ofName? (name : String) : Option Gesture :=
  if name = "Click" then some .click
  else if name = "LongClick" then some .longClick
  else if name = "Tick" then some .tick
  else none

def ofJson? (value : Json) : Option Gesture :=
  match value.choice? with
  | some (name, data) => if Json.isPlain data then ofName? name else none
  | none => none

end Gesture

namespace Action

def fieldNames : List String :=
  ["widget", "gesture"]

def toJson : Action → Json
  | .onWidget widget gesture =>
      .record [("WidgetAction",
        .record [("widget", widget.toJson), ("gesture", gesture.toJson)])]
  | action => .str action.kind

/-- The action without data that has the name. -/
def ofName? (name : String) : Option Action :=
  if name = "Reset" then some .reset
  else if name = "Terminate" then some .terminate
  else if name = "PressBack" then some .pressBack
  else if name = "Empty" then some .observe
  else none

/-- A widget action from its data. -/
def onWidgetOfJson? (value : Json) : Option Action :=
  match value.fields? fieldNames with
  | some [widget, gesture] => do
      let widget ← Json.required Widget.ofJson? widget
      let gesture ← Json.required Gesture.ofJson? gesture
      some (.onWidget widget gesture)
  | _ => none

def ofJson? (value : Json) : Option Action :=
  match value.choice? with
  | some ("WidgetAction", some data) => onWidgetOfJson? data
  | some (name, data) => if Json.isPlain data then ofName? name else none
  | none => none

end Action

end GuiExplorer
